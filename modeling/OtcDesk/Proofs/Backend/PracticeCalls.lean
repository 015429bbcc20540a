import OtcDesk.Backend.Practice

namespace OtcDesk

/-- The identifiers that come first, this many of them, differ from one another. -/
def Entropy.Distinct (entropy : Entropy) (count : Nat) : Prop :=
  ∀ earlier later, earlier < later → later < count →
    (entropy.uuids earlier).hex ≠ (entropy.uuids later).hex

theorem Entropy.Distinct.mono {entropy : Entropy} {count fewer : Nat}
    (distinct : entropy.Distinct count) (fits : fewer ≤ count) : entropy.Distinct fewer :=
  fun earlier later order within => distinct earlier later order (Nat.lt_of_lt_of_le within fits)

/-- A call asks one of five questions, issues a token, or changes settings other than roles. -/
inductive PracticeCall where
  | nonce (clock : Clock) (wallet : String)
  | verify (clock : Clock) (wallet signature : String)
  | owner (token : String)
  | trade (token : String) (left right : DealerIntent) (proofType : String)
  | jobs (clock : Clock) (run : String)
  | issue (wallet : String)
  | adjust (tokenTtlSecs : Int) (orchestration : Option Json) (proofSnapshots : List Json)

namespace Practice

/-- What a call leaves. -/
def afterCall (state : State) : PracticeCall → State
  | .nonce clock wallet => (requestNonce clock wallet state).2
  | .verify clock wallet signature => (verifySignature clock wallet signature state).2
  | .owner token => (fetchMe token state).2
  | .trade token left right proofType => (startOrchestration token left right proofType state).2
  | .jobs clock run => (fetchProofJobs clock run state).2
  | .issue wallet => (issueToken wallet state).2
  | .adjust tokenTtlSecs orchestration proofSnapshots =>
    ({ state.1 with tokenTtlSecs, orchestration, proofSnapshots }, state.2)

/-- What some calls leave, one after another. -/
def afterCalls (state : State) (calls : List PracticeCall) : State := calls.foldl afterCall state

/-- The token made of the identifier that was drawn after this many others. -/
def tokenAt (state : State) (index : Nat) : String := "fake-" ++ (state.2.uuids index).hex

variable {before after state : State}

/-- The roles and the source of identifiers are the same, and identifiers are only drawn. -/
structure Continues (before after : State) : Prop where
  roles : after.1.roles = before.1.roles
  defaultRole : after.1.defaultRole = before.1.defaultRole
  uuids : after.2.uuids = before.2.uuids
  drawn : before.2.uuidsDrawn ≤ after.2.uuidsDrawn

theorem Continues.refl (state : State) : Continues state state := ⟨rfl, rfl, rfl, Nat.le_refl _⟩

theorem Continues.trans {middle : State} (first : Continues before middle)
    (second : Continues middle after) : Continues before after where
  roles := second.roles.trans first.roles
  defaultRole := second.defaultRole.trans first.defaultRole
  uuids := second.uuids.trans first.uuids
  drawn := Nat.le_trans first.drawn second.drawn

/-- A role is one of the settings that stay. -/
theorem Continues.roleOf (continues : Continues before after) (wallet : String) :
    after.1.roleOf wallet = before.1.roleOf wallet := by
  simp only [Practice.roleOf, continues.roles, continues.defaultRole]

theorem Continues.tokenAt (continues : Continues before after) (index : Nat) :
    tokenAt after index = tokenAt before index := by
  rw [Practice.tokenAt, continues.uuids]
  rfl

theorem Continues.distinct {count : Nat} (continues : Continues before after)
    (distinct : after.2.Distinct count) : before.2.Distinct count := by
  intro earlier later order within
  rw [← continues.uuids]
  exact distinct earlier later order within

/-- A call continues, and at most it issues one token, which is made of the next identifier. -/
structure Proceeds (before after : State) : Prop extends Continues before after where
  tokens : after.1.tokens = before.1.tokens ∨
    before.2.uuidsDrawn < after.2.uuidsDrawn ∧ ∃ wallet,
      after.1.tokens = before.1.tokens.put (tokenAt before before.2.uuidsDrawn) wallet

theorem requestNonce_proceeds (clock : Clock) (wallet : String) (state : State) :
    Proceeds state (requestNonce clock wallet state).2 := by
  unfold requestNonce
  cases clock.seconds with
  | error fault => exact ⟨⟨rfl, rfl, rfl, Nat.le_succ _⟩, .inl rfl⟩
  | ok now => exact ⟨⟨rfl, rfl, rfl, Nat.le_succ _⟩, .inl rfl⟩

theorem issueToken_proceeds (wallet : String) (state : State) :
    Proceeds state (issueToken wallet state).2 :=
  ⟨⟨rfl, rfl, rfl, Nat.le_succ _⟩, .inr ⟨Nat.lt_succ_self _, wallet, rfl⟩⟩

theorem verifySignature_proceeds (clock : Clock) (wallet signature : String) (state : State) :
    Proceeds state (verifySignature clock wallet signature state).2 := by
  unfold verifySignature
  dsimp only
  split
  · exact ⟨⟨rfl, rfl, rfl, Nat.le_refl _⟩, .inl rfl⟩
  · cases clock.seconds with
    | error fault => exact ⟨⟨rfl, rfl, rfl, Nat.le_succ _⟩, .inr ⟨Nat.lt_succ_self _, wallet, rfl⟩⟩
    | ok now => exact ⟨⟨rfl, rfl, rfl, Nat.le_succ _⟩, .inr ⟨Nat.lt_succ_self _, wallet, rfl⟩⟩

/-- Asking for the owner of a token is noted, and changes nothing else. -/
theorem fetchMe_state (token : String) (state : State) :
    (fetchMe token state).2 = note "me" state := by
  unfold fetchMe
  dsimp only
  split <;> rfl

theorem fetchMe_proceeds (token : String) (state : State) :
    Proceeds state (fetchMe token state).2 := by
  rw [fetchMe_state]
  exact ⟨⟨rfl, rfl, rfl, Nat.le_refl _⟩, .inl rfl⟩

theorem startOrchestration_proceeds (token : String) (left right : DealerIntent)
    (proofType : String) (state : State) :
    Proceeds state (startOrchestration token left right proofType state).2 := by
  unfold startOrchestration
  dsimp only
  split
  · exact ⟨⟨rfl, rfl, rfl, Nat.le_refl _⟩, .inl rfl⟩
  · split
    · exact ⟨⟨rfl, rfl, rfl, Nat.le_refl _⟩, .inl rfl⟩
    · exact ⟨⟨rfl, rfl, rfl, Nat.le_add_right _ 3⟩, .inl rfl⟩

theorem fetchProofJobs_proceeds (clock : Clock) (run : String) (state : State) :
    Proceeds state (fetchProofJobs clock run state).2 := by
  unfold fetchProofJobs
  dsimp only
  split
  · split <;> exact ⟨⟨rfl, rfl, rfl, Nat.le_refl _⟩, .inl rfl⟩
  · cases clock.seconds with
    | error fault => exact ⟨⟨rfl, rfl, rfl, Nat.le_refl _⟩, .inl rfl⟩
    | ok now => exact ⟨⟨rfl, rfl, rfl, Nat.le_refl _⟩, .inl rfl⟩

/-- Every call proceeds from what was there. -/
theorem afterCall_proceeds (state : State) (call : PracticeCall) :
    Proceeds state (afterCall state call) := by
  cases call with
  | nonce clock wallet => exact requestNonce_proceeds clock wallet state
  | verify clock wallet signature => exact verifySignature_proceeds clock wallet signature state
  | owner token => exact fetchMe_proceeds token state
  | trade token left right proofType =>
      exact startOrchestration_proceeds token left right proofType state
  | jobs clock run => exact fetchProofJobs_proceeds clock run state
  | issue wallet => exact issueToken_proceeds wallet state
  | adjust tokenTtlSecs orchestration proofSnapshots =>
      exact ⟨⟨rfl, rfl, rfl, Nat.le_refl _⟩, .inl rfl⟩

/-- Any number of calls continues. -/
theorem afterCalls_continues (calls : List PracticeCall) :
    ∀ state, Continues state (afterCalls state calls) := by
  induction calls with
  | nil => exact Continues.refl
  | cons call later ih =>
      exact fun state => (afterCall_proceeds state call).toContinues.trans (ih _)

/-- A token was made of an identifier that was drawn, and issued to an owner. -/
structure Issued (state : State) (token owner : String) : Prop where
  known : state.1.tokens.get? token = some owner
  drawn : ∃ index < state.2.uuidsDrawn, tokenAt state index = token

/-- A call leaves a token with its owner, as the token that it may issue is another one. -/
theorem Issued.proceeds {token owner : String} (issued : Issued before token owner)
    (proceeds : Proceeds before after) (distinct : after.2.Distinct after.2.uuidsDrawn) :
    Issued after token owner := by
  obtain ⟨known, index, past, same⟩ := issued
  refine ⟨?_, index, Nat.lt_of_lt_of_le past proceeds.drawn, ?_⟩
  · rcases proceeds.tokens with kept | ⟨draws, wallet, put⟩
    · rw [kept]
      exact known
    · have differ : tokenAt before before.2.uuidsDrawn ≠ token := by
        rw [← same]
        intro equal
        have digits := (String.append_right_inj _).mp equal
        exact proceeds.toContinues.distinct distinct index _ past draws digits.symm
      rw [put, Table.get?_put_of_ne differ]
      exact known
  · rw [proceeds.toContinues.tokenAt]
    exact same

/-- Whatever calls are made, a token stays with its owner as long as no identifier is drawn twice. -/
theorem Issued.afterCalls {token owner : String} (calls : List PracticeCall) :
    ∀ {state : State}, Issued state token owner →
      (afterCalls state calls).2.Distinct (afterCalls state calls).2.uuidsDrawn →
        Issued (afterCalls state calls) token owner := by
  induction calls with
  | nil => exact fun issued _ => issued
  | cons call later ih =>
      intro state issued distinct
      have continues := afterCalls_continues later (afterCall state call)
      have soFar := (continues.distinct distinct).mono continues.drawn
      exact ih (issued.proceeds (afterCall_proceeds state call) soFar) distinct

theorem issueToken_issued (wallet : String) (state : State) :
    Issued (issueToken wallet state).2 (issueToken wallet state).1 wallet where
  known := Table.get?_put_self ..
  drawn := ⟨state.2.uuidsDrawn, Nat.lt_succ_self _, rfl⟩

/-- A challenge is always accepted, and it waits for its wallet under the message that it shows. -/
theorem requestNonce_of_reads {clock : Clock} {now : Int} (reads : clock.seconds = .ok now)
    (wallet : String) (state : State) :
    ∃ challenge, (requestNonce clock wallet state).1 = .ok challenge ∧ challenge.accepted = true ∧
      challenge.message = loginMessage wallet (state.2.uuids state.2.uuidsDrawn).hex now 1 ∧
      (requestNonce clock wallet state).2.1.pending.get? wallet = some challenge.message := by
  simp only [requestNonce, reads]
  exact ⟨_, rfl, rfl, rfl, Table.get?_put_self ..⟩

theorem requestNonce_tokenTtlSecs (clock : Clock) (wallet : String) (state : State) :
    (requestNonce clock wallet state).2.1.tokenTtlSecs = state.1.tokenTtlSecs := by
  unfold requestNonce
  cases clock.seconds <;> rfl

/-- A question for a token uses up the challenge of its wallet. -/
def spent (wallet : String) (state : State) : State :=
  ({ (note "verify" state).1 with pending := (note "verify" state).1.pending.erase wallet },
    (note "verify" state).2)

/-- A granted token belongs to its wallet, has the role of it, and expires as the settings say. -/
theorem verifySignature_grants {clock : Clock} {wallet signature : String} {token : VerifiedToken}
    (answered : (verifySignature clock wallet signature state).1 = .ok token)
    (granted : token.accepted = true) :
    Issued (verifySignature clock wallet signature state).2 token.accessToken wallet ∧
      token.walletAddress = wallet ∧ token.role = state.1.roleOf wallet ∧
      ∃ now, clock.seconds = .ok now ∧ token.expiresAt = now + state.1.tokenTtlSecs := by
  have issued := issueToken_issued wallet (spent wallet state)
  revert answered
  unfold verifySignature
  dsimp only
  split
  · rintro ⟨⟩
    cases granted
  · cases reads : clock.seconds with
    | error fault => exact nofun
    | ok now =>
        rintro ⟨⟩
        exact ⟨issued, rfl, rfl, now, rfl, rfl⟩

/-- A wallet that has a challenge is granted a token for any signature that is not empty. -/
theorem verifySignature_of_challenged {clock : Clock} {wallet signature message : String} {now : Int}
    (challenged : state.1.pending.get? wallet = some message)
    (nonempty : signature.isEmpty = false) (reads : clock.seconds = .ok now) :
    ∃ token, (verifySignature clock wallet signature state).1 = .ok token ∧
      token.accepted = true ∧ token.accessToken = tokenAt state state.2.uuidsDrawn ∧
      token.role = state.1.roleOf wallet := by
  have waits : ((note "verify" state).1.pending.get? wallet).isSome = true := by
    simp [note, challenged]
  unfold verifySignature
  simp only [waits, nonempty, reads]
  exact ⟨_, rfl, rfl, rfl, rfl⟩

end Practice

end OtcDesk
