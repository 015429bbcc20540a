import Mathlib.Data.List.Induction
import OtcDesk.Proofs.Backend.PracticeCalls

namespace OtcDesk

/-- The wallet whose challenge a call may touch. -/
def PracticeCall.challenged? : PracticeCall → Option String
  | .nonce _ wallet | .verify _ wallet _ => some wallet
  | .owner _ | .trade .. | .jobs .. | .issue _ | .adjust .. => none

/-- A clock can be read. -/
def Clock.Reads (clock : Clock) : Prop := ∃ now, clock.seconds = .ok now

namespace Practice

/-- Nobody has a challenge or a token yet. -/
structure Fresh (state : State) : Prop where
  pending : state.1.pending = []
  tokens : state.1.tokens = []

/-- A wallet has a challenge. -/
def Waits (state : State) (wallet : String) : Prop :=
  (state.1.pending.get? wallet).isSome = true

/-- A challenge was given to a wallet, and no token of it was asked for since. -/
def Unspent (calls : List PracticeCall) (wallet : String) : Prop :=
  ∃ earlier clock later, calls = earlier ++ .nonce clock wallet :: later ∧ clock.Reads ∧
    ∀ moment signature, .verify moment wallet signature ∉ later

/-- A question for a token is accepted. -/
def Accepts (state : State) (clock : Clock) (wallet signature : String) : Prop :=
  ∃ answer, (verifySignature clock wallet signature state).1 = .ok answer ∧ answer.accepted = true

variable {state start : State} {clock : Clock} {wallet signature : String}

theorem afterCalls_concat (start : State) (calls : List PracticeCall) (call : PracticeCall) :
    afterCalls start (calls ++ [call]) = afterCall (afterCalls start calls) call :=
  List.foldl_append ..

/-- A token is made for a wallet out of the next identifier. -/
structure Made (state : State) (wallet : String) (after : State) : Prop where
  tokens : after.1.tokens = state.1.tokens.put (tokenAt state state.2.uuidsDrawn) wallet
  drawn : after.2.uuidsDrawn = state.2.uuidsDrawn + 1

/-- A question for a token is refused, fails at the clock, or returns the token it has made. -/
inductive Ends (state : State) (clock : Clock) (wallet signature : String) :
    Except Failure VerifiedToken × State → Prop where
  | refused (answer : VerifiedToken) (after : State)
      (unfit : ¬ (Waits state wallet ∧ signature ≠ "")) (declined : answer.accepted = false)
      (kept : after.1.tokens = state.1.tokens) : Ends state clock wallet signature (.ok answer, after)
  | granted (answer : VerifiedToken) (after : State) (waits : Waits state wallet)
      (signed : signature ≠ "") (reads : clock.Reads) (accepted : answer.accepted = true)
      (token : answer.accessToken = tokenAt state state.2.uuidsDrawn)
      (made : Made state wallet after) : Ends state clock wallet signature (.ok answer, after)
  | failed (fault : Fault) (after : State) (waits : Waits state wallet) (signed : signature ≠ "")
      (unread : clock.seconds = .error fault) (made : Made state wallet after) :
      Ends state clock wallet signature (.error (.fault fault), after)

/-- Every question for a token ends in one of these ways. -/
theorem verifySignature_ends (state : State) (clock : Clock) (wallet signature : String) :
    Ends state clock wallet signature (verifySignature clock wallet signature state) := by
  unfold verifySignature
  dsimp only
  split
  · rename_i unfit
    refine .refused _ _ ?_ rfl rfl
    rintro ⟨waits, signed⟩
    rw [Waits] at waits
    simp [note, waits, signed] at unfit
  · rename_i fit
    obtain ⟨waits, signed⟩ : Waits state wallet ∧ signature ≠ "" := by
      simpa [note, Waits, Option.isSome_iff_ne_none] using fit
    cases reads : clock.seconds with
    | error fault => exact .failed fault _ waits signed reads ⟨rfl, rfl⟩
    | ok now => exact .granted _ _ waits signed ⟨now, reads⟩ rfl rfl ⟨rfl, rfl⟩

theorem accepts_iff : Accepts state clock wallet signature ↔
    Waits state wallet ∧ signature ≠ "" ∧ clock.Reads := by
  have ends := verifySignature_ends state clock wallet signature
  unfold Accepts
  generalize verifySignature clock wallet signature state = ended at ends
  cases ends with
  | refused answer after unfit declined kept =>
      constructor
      · rintro ⟨same, ⟨⟩, accepted⟩
        rw [declined] at accepted
        cases accepted
      · rintro ⟨waits, signed, -⟩
        exact absurd ⟨waits, signed⟩ unfit
  | granted answer after waits signed reads accepted token made =>
      exact iff_of_true ⟨answer, rfl, accepted⟩ ⟨waits, signed, reads⟩
  | failed fault after waits signed unread made =>
      constructor
      · rintro ⟨answer, ⟨⟩, _⟩
      · rintro ⟨-, -, now, read⟩
        rw [unread] at read
        cases read

/-- A question for a token uses up the challenge of its wallet and no other. -/
theorem verifySignature_pending (clock : Clock) (wallet signature : String) (state : State) :
    (verifySignature clock wallet signature state).2.1.pending = state.1.pending.erase wallet := by
  unfold verifySignature
  dsimp only
  split
  · rfl
  · cases clock.seconds <;> rfl

/-- Whatever comes of a question for a token, no challenge of its wallet is left. -/
theorem not_waits_verifySignature (clock : Clock) (wallet signature : String) (state : State) :
    ¬ Waits (verifySignature clock wallet signature state).2 wallet := by
  rw [Waits, verifySignature_pending, Table.get?_erase_self]
  simp

/-- A challenge is given to its wallet and no other. -/
theorem requestNonce_pending_of_ne (clock : Clock) {other : String} (different : wallet ≠ other)
    (state : State) :
    (requestNonce clock wallet state).2.1.pending.get? other = state.1.pending.get? other := by
  unfold requestNonce
  cases clock.seconds with
  | error fault => rfl
  | ok now => exact Table.get?_put_of_ne different ..

theorem startOrchestration_pending (token : String) (left right : DealerIntent) (proofType : String)
    (state : State) :
    (startOrchestration token left right proofType state).2.1.pending = state.1.pending := by
  unfold startOrchestration
  dsimp only
  split
  · rfl
  · split <;> rfl

theorem fetchProofJobs_pending (clock : Clock) (run : String) (state : State) :
    (fetchProofJobs clock run state).2.1.pending = state.1.pending := by
  unfold fetchProofJobs
  dsimp only
  split
  · split <;> rfl
  · cases clock.seconds <;> rfl

/-- A call that is not for a wallet leaves the challenge of that wallet as it is. -/
theorem afterCall_pending_of_ne {call : PracticeCall} (other : call.challenged? ≠ some wallet)
    (state : State) :
    (afterCall state call).1.pending.get? wallet = state.1.pending.get? wallet := by
  cases call with
  | nonce clock asking =>
      exact requestNonce_pending_of_ne clock (fun same => other (congrArg some same)) state
  | verify clock asking signature =>
      rw [afterCall, verifySignature_pending]
      exact Table.get?_erase_of_ne (fun same => other (congrArg some same)) _
  | owner token =>
      rw [afterCall, fetchMe_state]
      rfl
  | trade token left right proofType => rw [afterCall, startOrchestration_pending]
  | jobs clock run => rw [afterCall, fetchProofJobs_pending]
  | issue asking => rfl
  | adjust tokenTtlSecs orchestration proofSnapshots => rfl

/-- A wallet that asks for a challenge has one if the clock can be read, or if it had one. -/
theorem waits_requestNonce_iff (clock : Clock) (wallet : String) (state : State) :
    Waits (requestNonce clock wallet state).2 wallet ↔ clock.Reads ∨ Waits state wallet := by
  cases reads : clock.seconds with
  | ok now =>
      obtain ⟨challenge, -, -, -, waits⟩ := requestNonce_of_reads reads wallet state
      refine iff_of_true ?_ (.inl ⟨now, reads⟩)
      rw [Waits, waits]
      rfl
  | error fault =>
      have unread : ¬ clock.Reads := by simp [Clock.Reads, reads]
      have kept : (requestNonce clock wallet state).2.1.pending = state.1.pending := by
        simp only [requestNonce, reads, note]
      rw [Waits, kept, or_iff_right unread]
      rfl

/-- A wallet has a challenge after a call that gave it one, or did not use up the one it had. -/
theorem waits_afterCall_iff (state : State) (call : PracticeCall) (wallet : String) :
    Waits (afterCall state call) wallet ↔
      (∃ clock, call = .nonce clock wallet ∧ clock.Reads) ∨
        (∀ moment signature, call ≠ .verify moment wallet signature) ∧ Waits state wallet := by
  by_cases own : call.challenged? = some wallet
  · cases call with
    | nonce clock asking =>
        obtain rfl := Option.some.inj own
        simpa [afterCall, eq_comm] using waits_requestNonce_iff clock asking state
    | verify clock asking signature =>
        obtain rfl := Option.some.inj own
        simpa [afterCall] using not_waits_verifySignature clock asking signature state
    | owner token => cases own
    | trade token left right proofType => cases own
    | jobs clock run => cases own
    | issue asking => cases own
    | adjust tokenTtlSecs orchestration proofSnapshots => cases own
  · have given : ¬ ∃ clock, call = .nonce clock wallet ∧ clock.Reads := by
      rintro ⟨clock, rfl, -⟩
      exact own rfl
    have unasked : ∀ moment signature, call ≠ .verify moment wallet signature := by
      rintro moment signature rfl
      exact own rfl
    rw [Waits, afterCall_pending_of_ne own, or_iff_right given, and_iff_right unasked]
    rfl

theorem not_unspent_nil (wallet : String) : ¬ Unspent [] wallet := by
  rintro ⟨earlier, clock, later, split, -⟩
  simp at split

/-- The challenge of a wallet is unspent after one more call under the same condition. -/
theorem unspent_concat {calls : List PracticeCall} {call : PracticeCall} :
    Unspent (calls ++ [call]) wallet ↔
      (∃ clock, call = .nonce clock wallet ∧ clock.Reads) ∨
        (∀ moment signature, call ≠ .verify moment wallet signature) ∧ Unspent calls wallet := by
  constructor
  · rintro ⟨earlier, clock, later, split, reads, unasked⟩
    cases later using List.reverseRecOn with
    | nil =>
        obtain ⟨-, same⟩ := List.append_inj' split rfl
        exact .inl ⟨clock, List.singleton_inj.mp same, reads⟩
    | append_singleton between last =>
        rw [← List.cons_append, ← List.append_assoc] at split
        obtain ⟨rfl, same⟩ := List.append_inj' split rfl
        obtain rfl := List.singleton_inj.mp same
        refine .inr ⟨?_, earlier, clock, between, rfl, reads, ?_⟩
        · rintro moment signature rfl
          exact unasked moment signature (by simp)
        · intro moment signature member
          exact unasked moment signature (List.mem_append_left _ member)
  · rintro (⟨clock, rfl, reads⟩ | ⟨never, earlier, clock, later, rfl, reads, unasked⟩)
    · exact ⟨calls, clock, [], rfl, reads, by simp⟩
    · refine ⟨earlier, clock, later ++ [call], by simp, reads, ?_⟩
      intro moment signature member
      rcases List.mem_append.mp member with before | last
      · exact unasked moment signature before
      · exact never moment signature (List.mem_singleton.mp last).symm

/-- From fresh on, a wallet has a challenge exactly if its last one is unspent. -/
theorem waits_iff_unspent (fresh : Fresh start) (calls : List PracticeCall) (wallet : String) :
    Waits (afterCalls start calls) wallet ↔ Unspent calls wallet := by
  induction calls using List.reverseRecOn with
  | nil =>
      refine iff_of_false ?_ (not_unspent_nil wallet)
      rw [afterCalls, List.foldl_nil, Waits, fresh.pending, Table.get?_nil]
      simp
  | append_singleton earlier last ih =>
      rw [afterCalls_concat, waits_afterCall_iff, unspent_concat, ih]

/-- Behind a question for a token of a wallet, its challenge is unspent only if it was given since. -/
theorem Unspent.since {first middle : List PracticeCall} {moment : Clock}
    (unspent : Unspent (first ++ .verify moment wallet signature :: middle) wallet) :
    ∃ clock, .nonce clock wallet ∈ middle := by
  obtain ⟨earlier, clock, later, split, -, unasked⟩ := unspent
  rcases List.append_eq_append_iff.mp split with ⟨between, -, behind⟩ | ⟨between, -, behind⟩
  · cases between with
    | nil => cases behind
    | cons asked rest =>
        obtain ⟨-, rfl⟩ := List.cons.inj behind
        exact ⟨clock, by simp⟩
  · cases between with
    | nil => cases behind
    | cons given rest =>
        obtain ⟨-, rfl⟩ := List.cons.inj behind
        exact absurd (by simp) (unasked moment signature)

end Practice

end OtcDesk
