import OtcDesk.Proofs.Backend.Challenges

namespace OtcDesk.Practice

/-- The token that a call returns, with the wallet that it is for. -/
def returned? (state : State) : PracticeCall → Option (String × String)
  | .issue wallet => some ((issueToken wallet state).1, wallet)
  | .verify clock wallet signature =>
    match (verifySignature clock wallet signature state).1 with
    | .ok answer => if answer.accepted then some (answer.accessToken, wallet) else none
    | .error _ => none
  | .nonce .. | .owner _ | .trade .. | .jobs .. | .adjust .. => none

/-- The token that a call makes but does not return, as it fails before. -/
def lost? (state : State) : PracticeCall → Option (String × String)
  | .verify clock wallet signature =>
    match (verifySignature clock wallet signature state).1 with
    | .ok _ => none
    | .error _ => some (tokenAt state state.2.uuidsDrawn, wallet)
  | .issue _ | .nonce .. | .owner _ | .trade .. | .jobs .. | .adjust .. => none

/-- What is found at each of some calls, one after another. -/
def along {α : Type} (found? : State → PracticeCall → Option α) :
    State → List PracticeCall → List α
  | _, [] => []
  | state, call :: later =>
    (found? state call).toList ++ along found? (afterCall state call) later

/-- Every known token was made of an identifier that was drawn. -/
def Kept (state : State) : Prop :=
  ∀ token owner, state.1.tokens.get? token = some owner → Issued state token owner

variable {start state : State} {token owner : String} {call : PracticeCall}

/-- A call makes a token for a wallet, and either returns it or loses it. -/
structure Makes (state : State) (call : PracticeCall) (wallet : String) : Prop extends
    Made state wallet (afterCall state call) where
  handed : ∀ made, returned? state call = some made ∨ lost? state call = some made ↔
    made = (tokenAt state state.2.uuidsDrawn, wallet)

/-- A call makes no token. -/
structure MakesNone (state : State) (call : PracticeCall) : Prop where
  kept : (afterCall state call).1.tokens = state.1.tokens
  returned : returned? state call = none
  lost : lost? state call = none

/-- A question for a token makes one or none. -/
theorem verify_makes (state : State) (clock : Clock) (wallet signature : String) :
    MakesNone state (.verify clock wallet signature) ∨
      Makes state (.verify clock wallet signature) wallet := by
  have ends := verifySignature_ends state clock wallet signature
  generalize same : verifySignature clock wallet signature state = ended at ends
  have left : afterCall state (.verify clock wallet signature) = ended.2 := congrArg Prod.snd same
  cases ends with
  | refused answer after unfit declined kept =>
      refine .inl ⟨left ▸ kept, ?_, ?_⟩
      · simp [returned?, same, declined]
      · simp [lost?, same]
  | granted answer after waits signed reads accepted token made =>
      refine .inr ⟨left ▸ made, fun handed => ?_⟩
      simp [returned?, lost?, same, accepted, token, eq_comm]
  | failed fault after waits signed unread made =>
      refine .inr ⟨left ▸ made, fun handed => ?_⟩
      simp [returned?, lost?, same, eq_comm]

/-- A call makes a token for some wallet or none. -/
theorem afterCall_makes (state : State) (call : PracticeCall) :
    MakesNone state call ∨ ∃ wallet, Makes state call wallet := by
  cases call with
  | verify clock wallet signature =>
      exact (verify_makes state clock wallet signature).imp_right fun makes => ⟨wallet, makes⟩
  | issue wallet =>
      refine .inr ⟨wallet, ⟨rfl, rfl⟩, fun handed => ?_⟩
      simp only [returned?, lost?, reduceCtorEq, or_false, Option.some.injEq, eq_comm]
      rfl
  | nonce clock wallet =>
      refine .inl ⟨?_, rfl, rfl⟩
      rw [afterCall, requestNonce]
      cases clock.seconds <;> rfl
  | owner token =>
      refine .inl ⟨?_, rfl, rfl⟩
      rw [afterCall, fetchMe_state]
      rfl
  | trade token left right proofType =>
      refine .inl ⟨?_, rfl, rfl⟩
      unfold afterCall startOrchestration
      dsimp only
      split
      · rfl
      · split <;> rfl
  | jobs clock run =>
      refine .inl ⟨?_, rfl, rfl⟩
      unfold afterCall fetchProofJobs
      dsimp only
      split
      · split <;> rfl
      · cases clock.seconds <;> rfl
  | adjust tokenTtlSecs orchestration proofSnapshots => exact .inl ⟨rfl, rfl, rfl⟩

/-- After a call a token is known if it was known before, or if the call has made it. -/
theorem known_afterCall_iff (kept : Kept state)
    (distinct : (afterCall state call).2.Distinct (afterCall state call).2.uuidsDrawn) :
    (afterCall state call).1.tokens.get? token = some owner ↔
      state.1.tokens.get? token = some owner ∨ returned? state call = some (token, owner) ∨
        lost? state call = some (token, owner) := by
  rcases afterCall_makes state call with none_ | ⟨wallet, makes⟩
  · rw [none_.kept, none_.returned, none_.lost]
    simp
  · rw [makes.handed, Prod.mk.injEq]
    constructor
    · intro known
      rw [makes.tokens] at known
      by_cases fresh : tokenAt state state.2.uuidsDrawn = token
      · rw [← fresh, Table.get?_put_self] at known
        exact .inr ⟨fresh.symm, (Option.some.inj known).symm⟩
      · rw [Table.get?_put_of_ne fresh] at known
        exact .inl known
    · rintro (known | ⟨rfl, rfl⟩)
      · exact ((kept token owner known).proceeds (afterCall_proceeds state call) distinct).known
      · rw [makes.tokens]
        exact Table.get?_put_self ..

/-- A call keeps the known tokens and enters only the one that it makes. -/
theorem Kept.afterCall (kept : Kept state)
    (distinct : (afterCall state call).2.Distinct (afterCall state call).2.uuidsDrawn) :
    Kept (afterCall state call) := by
  intro token owner known
  rcases (known_afterCall_iff kept distinct).mp known with before | made
  · exact (kept token owner before).proceeds (afterCall_proceeds state call) distinct
  · rcases afterCall_makes state call with none_ | ⟨wallet, makes⟩
    · rw [none_.returned, none_.lost] at made
      simp at made
    · obtain ⟨rfl, rfl⟩ := Prod.mk.inj ((makes.handed _).mp made)
      refine ⟨known, state.2.uuidsDrawn, ?_, ?_⟩
      · rw [makes.drawn]
        exact Nat.lt_succ_self _
      · exact (afterCall_proceeds state call).toContinues.tokenAt _

/-- After some calls a token is known if it was known before, or if one of them has made it. -/
theorem known_afterCalls_iff (calls : List PracticeCall) :
    ∀ {state : State}, Kept state →
      (afterCalls state calls).2.Distinct (afterCalls state calls).2.uuidsDrawn →
        ((afterCalls state calls).1.tokens.get? token = some owner ↔
          state.1.tokens.get? token = some owner ∨ (token, owner) ∈ along returned? state calls ∨
            (token, owner) ∈ along lost? state calls) := by
  induction calls with
  | nil =>
      intro state _ _
      simp [along, afterCalls]
  | cons call later ih =>
      intro state kept distinct
      have continues := afterCalls_continues later (afterCall state call)
      have soFar := (continues.distinct distinct).mono continues.drawn
      have step : (afterCall state call).1.tokens.get? token = some owner ↔ _ :=
        known_afterCall_iff kept soFar
      have rest := ih (kept.afterCall soFar) distinct
      have next : afterCalls state (call :: later) = afterCalls (afterCall state call) later := rfl
      rw [next, rest, step]
      simp only [along, List.mem_append, Option.mem_toList, or_assoc, or_left_comm]

/-- A call loses a token only if it asks for one and cannot read the clock. -/
theorem of_lost? {made : String × String} (lost : lost? state call = some made) :
    ∃ clock signature fault, call = .verify clock made.2 signature ∧ clock.seconds = .error fault := by
  cases call with
  | verify clock wallet signature =>
      have ends := verifySignature_ends state clock wallet signature
      rw [lost?] at lost
      generalize verifySignature clock wallet signature state = ended at ends lost
      cases ends with
      | refused => cases lost
      | granted => cases lost
      | failed fault after waits signed unread =>
          obtain rfl := Option.some.inj lost
          exact ⟨clock, signature, fault, rfl, unread⟩
  | nonce clock wallet => cases lost
  | owner token => cases lost
  | trade token left right proofType => cases lost
  | jobs clock run => cases lost
  | issue wallet => cases lost
  | adjust tokenTtlSecs orchestration proofSnapshots => cases lost

theorem of_mem_lost {calls : List PracticeCall} :
    ∀ {state : State}, (token, owner) ∈ along lost? state calls →
      ∃ clock signature fault, .verify clock owner signature ∈ calls ∧
        clock.seconds = .error fault := by
  induction calls with
  | nil => exact fun member => nomatch member
  | cons call later ih =>
      intro state member
      rw [along, List.mem_append, Option.mem_toList] at member
      rcases member with here | there
      · obtain ⟨clock, signature, fault, rfl, unread⟩ := of_lost? here
        exact ⟨clock, signature, fault, List.mem_cons_self, unread⟩
      · obtain ⟨clock, signature, fault, asked, unread⟩ := ih there
        exact ⟨clock, signature, fault, List.mem_cons_of_mem _ asked, unread⟩

/-- A token is authenticated, and this wallet named as its owner. -/
def Names (state : State) (token owner : String) : Prop :=
  ∃ identity, (fetchMe token state).1 = .ok identity ∧ identity.authenticated = true ∧
    identity.walletAddress = owner

/-- A trade under a token is refused as unauthorized. -/
def Unauthorized (state : State) (token : String) (left right : DealerIntent) (proofType : String) :
    Prop :=
  ∃ reason status, (startOrchestration token left right proofType state).1 =
    .error (.desk (.rejection (.str "UNAUTHORIZED") reason status))

theorem names_iff : Names state token owner ↔ state.1.tokens.get? token = some owner := by
  have known : (note "me" state).1.tokens.get? token = state.1.tokens.get? token := rfl
  unfold Names fetchMe
  dsimp only
  rw [known]
  cases state.1.tokens.get? token with
  | none => simp
  | some wallet => simp

/-- An answer that was set beforehand is no rejection. -/
theorem readAnswer_ne_rejection {α : Type} (read : Json → Except Fault α) (payload : Json)
    (operation : String) (code : Json) (reason : String) (status : Option Int) :
    Backend.readAnswer read payload operation ≠ .error (.desk (.rejection code reason status)) := by
  unfold Backend.readAnswer
  split
  · simp
  · split <;> simp

theorem unauthorized_iff {left right : DealerIntent} {proofType : String} :
    Unauthorized state token left right proofType ↔ state.1.tokens.get? token = none := by
  have known : (note "orchestrate" state).1.tokens.get? token = state.1.tokens.get? token := rfl
  unfold Unauthorized startOrchestration
  dsimp only
  rw [known]
  cases state.1.tokens.get? token with
  | none => simp
  | some wallet =>
      refine iff_of_false ?_ (by simp)
      rintro ⟨reason, status, refused⟩
      simp only [Option.isNone_some, Bool.false_eq_true, if_false] at refused
      split at refused
      · exact readAnswer_ne_rejection _ _ _ _ _ _ refused
      · cases refused

/-- Each challenge is spent by one question for a token, and just the tokens made have an owner. -/
theorem challenges_spent_once_tokens_owned (fresh : Fresh start) (calls : List PracticeCall)
    (distinct : (afterCalls start calls).2.Distinct (afterCalls start calls).2.uuidsDrawn) :
    let reached := afterCalls start calls
    let owned := fun token owner =>
      (token, owner) ∈ along returned? start calls ∨ (token, owner) ∈ along lost? start calls
    (∀ before clock wallet signature after,
      calls = before ++ .verify clock wallet signature :: after →
        (Accepts (afterCalls start before) clock wallet signature ↔
          Unspent before wallet ∧ signature ≠ "" ∧ clock.Reads)) ∧
    (∀ first moment wallet signature middle clock other after,
      calls = first ++ .verify moment wallet signature ::
          (middle ++ .verify clock wallet other :: after) →
        Accepts (afterCalls start (first ++ .verify moment wallet signature :: middle))
            clock wallet other →
          ∃ given, .nonce given wallet ∈ middle) ∧
    (∀ state clock wallet signature,
      ¬ Waits (afterCall state (.verify clock wallet signature)) wallet) ∧
    (∀ state call wallet, call.challenged? ≠ some wallet →
      (afterCall state call).1.pending.get? wallet = state.1.pending.get? wallet) ∧
    (∀ token owner, Names reached token owner ↔ owned token owner) ∧
    (∀ token left right proofType,
      Unauthorized reached token left right proofType ↔ ¬ ∃ owner, owned token owner) ∧
    ∀ token owner, (token, owner) ∈ along lost? start calls →
      ∃ clock signature fault, .verify clock owner signature ∈ calls ∧
        clock.seconds = .error fault := by
  intro reached owned
  have kept : Kept start := by
    intro token owner known
    rw [fresh.tokens] at known
    cases known
  have known : ∀ token owner, reached.1.tokens.get? token = some owner ↔ owned token owner := by
    intro token owner
    rw [known_afterCalls_iff calls kept distinct, fresh.tokens]
    simp [owned]
  refine ⟨?accepted, ?between, ?spent, ?others, ?names, ?trades, ?lost⟩
  case accepted =>
    intro before clock wallet signature after _
    rw [accepts_iff, waits_iff_unspent fresh]
  case between =>
    intro first moment wallet signature middle clock other after _ accepted
    obtain ⟨waits, -⟩ := accepts_iff.mp accepted
    exact ((waits_iff_unspent fresh _ wallet).mp waits).since
  case spent =>
    intro state clock wallet signature
    exact not_waits_verifySignature clock wallet signature state
  case others =>
    intro state call wallet other
    exact afterCall_pending_of_ne other state
  case names =>
    intro token owner
    rw [names_iff, known]
  case trades =>
    intro token left right proofType
    rw [unauthorized_iff, ← not_iff_not, not_not, ← ne_eq, Option.ne_none_iff_exists']
    simp only [known]
  case lost =>
    intro token owner member
    exact of_mem_lost member

/-- The identifiers zero, one, two and so on, of which nothing is drawn yet, and an empty backend. -/
def numbered : State :=
  ({}, { uuids := fun index => ⟨index⟩, signingSeeds := fun _ => [], sealingNonces := fun _ => [] })

theorem numbered_fresh : Fresh numbered := ⟨rfl, rfl⟩

theorem numbered_distinct (calls : List PracticeCall)
    (drawn : (afterCalls numbered calls).2.uuidsDrawn = 2) :
    (afterCalls numbered calls).2.Distinct (afterCalls numbered calls).2.uuidsDrawn := by
  have two : ∀ last < 2, ∀ first < last,
      (numbered.2.uuids first).hex ≠ (numbered.2.uuids last).hex := by decide +kernel
  rw [drawn]
  intro first last order within
  rw [(afterCalls_continues calls numbered).uuids]
  exact two last within first order

/-- The token of the first login names its wallet, whose challenge is used up. -/
theorem first_token_names_wallet :
    let calls := [.nonce (.whole 1700000000) "0xab", .verify (.whole 1700000000) "0xab" "signature"]
    Names (afterCalls numbered calls) (tokenAt numbered 1) "0xab" ∧
      ¬ Waits (afterCalls numbered calls) "0xab" := by
  intro calls
  have distinct := numbered_distinct calls (by decide +kernel)
  obtain ⟨-, -, spent, -, names, -⟩ :=
    challenges_spent_once_tokens_owned numbered_fresh calls distinct
  refine ⟨(names _ _).mpr (.inl ?_), ?_⟩
  · decide +kernel
  · exact spent (afterCalls numbered [.nonce (.whole 1700000000) "0xab"]) _ _ _

/-- At an infinite time a question for a token fails, but its token is entered by then. -/
theorem unreturned_token_names_wallet :
    let calls := [.nonce (.whole 1700000000) "0xab",
      .verify (.real (.infinite false)) "0xab" "signature"]
    (afterCalls numbered calls).2.Distinct (afterCalls numbered calls).2.uuidsDrawn ∧
      along returned? numbered calls = [] ∧
      Names (afterCalls numbered calls) (tokenAt numbered 1) "0xab" := by
  intro calls
  refine ⟨numbered_distinct calls (by decide +kernel), by decide +kernel, ?_⟩
  rw [names_iff]
  decide +kernel

end OtcDesk.Practice
