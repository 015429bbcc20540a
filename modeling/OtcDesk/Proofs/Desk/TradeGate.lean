import OtcDesk.Desk
import OtcDesk.Proofs.Desk.Submission
import OtcDesk.Proofs.Login.Gates

namespace OtcDesk

namespace Submission

variable {σ : Type} {stored : Option WalletSession} {session : WalletSession} {clock : Clock}
  {store : SessionStore}

/-- The stored session admits a submission in the whole second that the clock reads. -/
def Admitted (stored : Option WalletSession) (clock : Clock) (session : WalletSession) : Prop :=
  stored = some session ∧ ∃ now, clock.seconds = .ok now ∧ session.Admits now

theorem Admitted.unique {other : WalletSession} (admitted : Admitted stored clock session)
    (also : Admitted stored clock other) : session = other :=
  Option.some.inj (admitted.1.symm.trans also.1)

/-- With a clock that has no whole seconds, nothing is admitted. -/
theorem not_admitted_of_unread {fault : Fault} (unread : clock.seconds = .error fault) :
    ∀ session, ¬ Admitted stored clock session := by
  rintro session ⟨_, now, reads, _⟩
  rw [unread] at reads
  cases reads

/-- How a submission ends: what it has asked, what it brings, and what it leaves of the backend. -/
inductive SubmissionEnds (backend : Backend σ) (stored : Option WalletSession) (clock : Clock)
    (proofType : String) (left right : DealerIntent) (state : σ) :
    List Question → Except Failure OrchestrationResult → σ → Prop where
  | refused {message : String} (barred : ∀ session, ¬ Admitted stored clock session) :
      SubmissionEnds backend stored clock proofType left right state []
        (.error (.desk (.noSession message))) state
  | untimed {fault : Fault} (unread : clock.seconds = .error fault) :
      SubmissionEnds backend stored clock proofType left right state [] (.error (.fault fault)) state
  | answered {session : WalletSession} {answer : Except Failure OrchestrationResult} {after : σ}
      (admitted : Admitted stored clock session)
      (answers : backend.startOrchestration session.accessToken left right proofType state =
        (answer, after)) :
      SubmissionEnds backend stored clock proofType left right state
        [.trade session.accessToken left right proofType] (answer.bind outcome) after

/-- With a clock that has no whole seconds, no token is lent. -/
theorem token_of_unread {fault : Fault} (unread : clock.seconds = .error fault) :
    (∃ message, token stored clock = .error (.desk (.noSession message))) ∨
      token stored clock = .error (.fault fault) := by
  cases stored with
  | none => exact .inl ⟨_, rfl⟩
  | some session =>
      unfold token
      dsimp only
      split
      · exact .inl ⟨_, rfl⟩
      · right
        rw [isExpired_eq_error.mpr unread]

/-- Every submission ends in one of these ways. -/
theorem submit_ends (loaded : store.load.value = .ok stored) (backend : Backend σ) (clock : Clock)
    (proofType : String) (left right : DealerIntent) (state : σ) :
    let noted := submit backend.noting store clock proofType left right (state, [])
    SubmissionEnds backend stored clock proofType left right state noted.2.2 noted.1.value
      noted.2.1 := by
  intro noted
  cases reads : clock.seconds with
  | error fault =>
      rcases token_of_unread reads with ⟨message, denied⟩ | denied
      · have ends : noted = _ := submit_of_denied loaded denied ..
        rw [ends]
        exact .refused (not_admitted_of_unread reads)
      · have ends : noted = _ := submit_of_denied loaded denied ..
        rw [ends]
        exact .untimed reads
  | ok now =>
      by_cases admits : ∃ session, stored = some session ∧ session.Admits now
      · obtain ⟨session, rfl, admits⟩ := admits
        have ends : noted = _ := submit_of_admits loaded reads admits ..
        rw [ends]
        exact .answered ⟨rfl, now, reads, admits⟩ rfl
      · have refused : ∀ session, stored = some session → ¬ session.Admits now :=
          fun session held also => admits ⟨session, held, also⟩
        obtain ⟨message, ends⟩ : ∃ message, noted = _ :=
          submit_of_none_admits loaded reads refused ..
        rw [ends]
        refine .refused ?_
        rintro session ⟨held, other, also, holds⟩
        rw [reads] at also
        cases also
        exact refused session held holds

/-- A submission does not depend on its being noted. -/
theorem submit_noting (backend : Backend σ) (store : SessionStore) (clock : Clock)
    (proofType : String) (left right : DealerIntent) (state : σ) (asked : List Question) :
    let noted := submit backend.noting store clock proofType left right (state, asked)
    submit backend store clock proofType left right state = (noted.1, noted.2.1) := by
  dsimp only [submit, Backend.noting, Question.noted]
  cases (store.load.value.mapError Failure.fault).bind (token · clock) with
  | error failure => rfl
  | ok token => rfl

theorem outcome_of_accepted {told : OrchestrationResult} (accepted : told.accepted = true) :
    outcome told = .ok told := by
  rw [outcome, if_pos accepted]

/-- A refused trade is an error that carries it, with a reason: its own, if it has one. -/
theorem outcome_of_refused {told : OrchestrationResult} (refused : told.accepted = false) :
    ∃ reason, reason ≠ "" ∧ (told.reason ≠ "" → reason = told.reason) ∧
      outcome told =
        .error (.desk (.tradeRejected (.ofText? told.errorCode) reason none (some told))) := by
  have unaccepted : ¬ told.accepted = true := by simp [refused]
  rw [outcome, if_neg unaccepted, Text.orElse]
  split
  · rename_i empty
    exact ⟨_, by decide, fun given => absurd (String.isEmpty_iff.mp empty) given, rfl⟩
  · rename_i given
    exact ⟨_, mt String.isEmpty_iff.mpr given, fun _ => rfl, rfl⟩

/-- Only an accepted trade is returned, and as it was answered. -/
theorem answer_of_outcome {answer : Except Failure OrchestrationResult} {told : OrchestrationResult}
    (returned : answer.bind outcome = .ok told) : answer = .ok told ∧ told.accepted = true := by
  cases answer with
  | error failure => cases returned
  | ok result =>
      cases accepted : result.accepted with
      | false =>
          obtain ⟨reason, -, -, refused⟩ := outcome_of_refused accepted
          rw [Except.bind, refused] at returned
          cases returned
      | true =>
          rw [Except.bind, outcome_of_accepted accepted] at returned
          cases returned
          exact ⟨rfl, accepted⟩

section Ends

variable {backend : Backend σ} {proofType : String} {left right : DealerIntent} {state after : σ}
  {asked : List Question} {result : Except Failure OrchestrationResult}

/-- One trade is asked for, if the session admits it. -/
theorem SubmissionEnds.asks
    (ends : SubmissionEnds backend stored clock proofType left right state asked result after) :
    AskedOnce asked (Admitted stored clock)
      fun session => .trade session.accessToken left right proofType := by
  cases ends with
  | refused barred => exact askedOnce_nil _ barred
  | untimed unread => exact askedOnce_nil _ (not_admitted_of_unread unread)
  | answered admitted answers =>
      exact askedOnce_singleton (fun session => .trade session.accessToken left right proofType)
        admitted fun other also => also.unique admitted

/-- Without a session that admits it, a submission says so, or the clock fails. -/
theorem SubmissionEnds.refuses
    (ends : SubmissionEnds backend stored clock proofType left right state asked result after)
    (barred : ∀ session, ¬ Admitted stored clock session) :
    (∃ message, result = .error (.desk (.noSession message))) ∨
      ∃ fault, clock.seconds = .error fault ∧ result = .error (.fault fault) := by
  cases ends with
  | refused => exact .inl ⟨_, rfl⟩
  | untimed unread => exact .inr ⟨_, unread, rfl⟩
  | answered admitted => exact absurd admitted (barred _)

/-- Under a session that admits it, the answer is the outcome of the submission. -/
theorem SubmissionEnds.passes
    (ends : SubmissionEnds backend stored clock proofType left right state asked result after)
    (admitted : Admitted stored clock session) :
    result = (backend.startOrchestration session.accessToken left right proofType state).1.bind
      outcome := by
  cases ends with
  | refused barred => exact absurd admitted (barred session)
  | untimed unread => exact absurd admitted (not_admitted_of_unread unread session)
  | answered also answers => rw [admitted.unique also, answers]

/-- Nothing but an accepted trade is returned, and as it was answered. -/
theorem SubmissionEnds.returns
    (ends : SubmissionEnds backend stored clock proofType left right state asked result after)
    {told : OrchestrationResult} (returned : result = .ok told) :
    told.accepted = true ∧ ∃ session, Admitted stored clock session ∧
      (backend.startOrchestration session.accessToken left right proofType state).1 = .ok told := by
  cases ends with
  | refused => cases returned
  | untimed => cases returned
  | answered admitted answers =>
      obtain ⟨answered, accepted⟩ := answer_of_outcome returned
      refine ⟨accepted, _, admitted, ?_⟩
      rw [answers]
      exact answered

end Ends

end Submission

namespace Desk

open Submission

variable {σ : Type} {desk : Desk σ} {stored : Option WalletSession}

/-- A submission asks for one trade exactly under a session with a token that is not over. -/
theorem trade_asked_only_if_admitted (loaded : desk.login.store.load.value = .ok stored)
    (backendAt : Clock → Backend σ) (left right : DealerIntent) :
    let backend := backendAt desk.clock
    let noted := Submission.submit backend.noting desk.login.store desk.clock desk.proofType left
      right (desk.tracking.backend, [])
    let submitted := desk.submit backendAt left right
    let asked := noted.2.2
    let answer := fun session : WalletSession =>
      (backend.startOrchestration session.accessToken left right desk.proofType
        desk.tracking.backend).1
    submitted.1 = noted.1.value ∧ submitted.2.tracking.backend = noted.2.1 ∧
    submitted.2.login.store = desk.login.store ∧
    AskedOnce asked (Admitted stored desk.clock)
      (fun session => .trade session.accessToken left right desk.proofType) ∧
    ((∀ session, ¬ Admitted stored desk.clock session) →
      (∃ message, submitted.1 = .error (.desk (.noSession message))) ∨
      ∃ fault, desk.clock.seconds = .error fault ∧ submitted.1 = .error (.fault fault)) ∧
    (∀ session, Admitted stored desk.clock session →
      (∀ failure, answer session = .error failure → submitted.1 = .error failure) ∧
      ∀ told, answer session = .ok told →
        (told.accepted = true → submitted.1 = .ok told) ∧
        (told.accepted = false → ∃ reason, reason ≠ "" ∧
          (told.reason ≠ "" → reason = told.reason) ∧ submitted.1 =
            .error (.desk (.tradeRejected (.ofText? told.errorCode) reason none (some told))))) ∧
    ∀ told, submitted.1 = .ok told → told.accepted = true ∧
      ∃ session, Admitted stored desk.clock session ∧ answer session = .ok told := by
  intro backend noted submitted asked answer
  have ends : SubmissionEnds backend stored desk.clock desk.proofType left right
      desk.tracking.backend asked noted.1.value noted.2.1 :=
    submit_ends loaded backend desk.clock desk.proofType left right desk.tracking.backend
  have plain : Submission.submit backend desk.login.store desk.clock desk.proofType left right
      desk.tracking.backend = (noted.1, noted.2.1) :=
    submit_noting backend desk.login.store desk.clock desk.proofType left right
      desk.tracking.backend []
  have same : submitted.1 = noted.1.value := congrArg (fun ended => ended.1.value) plain
  have behind : submitted.2.tracking.backend = noted.2.1 := congrArg Prod.snd plain
  rw [same]
  refine ⟨rfl, behind, rfl, ends.asks, ends.refuses, ?passes, fun told returned =>
    ends.returns returned⟩
  case passes =>
    intro session admitted
    have passed : noted.1.value = (answer session).bind outcome := ends.passes admitted
    refine ⟨fun failure failed => ?_, fun told answered => ⟨fun accepted => ?_, fun refused => ?_⟩⟩
    · rw [passed, failed]
      rfl
    · rw [passed, answered]
      exact outcome_of_accepted accepted
    · rw [passed, answered]
      exact outcome_of_refused refused

/-- In the last second of a session a trade is asked for, and in the next second it is not. -/
theorem last_second_trade :
    let session : WalletSession := ⟨"token", "0xowner", .dealer, 1700003600⟩
    let slots : Slots := .memory [(SessionStore.defaultKey, session.record.text)]
    let party : String → DealerIntent := fun name =>
      ⟨⟨"sealed", "signature", "key", "nonce", 1700000000⟩, name, none, none⟩
    let early : Desk Unit :=
      { login := { store := ⟨some slots, SessionStore.defaultKey⟩ }
        tracking := { tracker := { interval := 1 }, backend := () }
        clock := .whole 1700003599 }
    let late : Desk Unit := { early with clock := .whole 1700003600 }
    let told : Bool → OrchestrationResult := fun accepted =>
      ⟨accepted, "run", "", "", "", "", [], [], none, none, ""⟩
    let answering : Bool → Clock → Backend Unit := fun accepted _ =>
      { requestNonce := fun _ state => (.error .interrupted, state)
        verifySignature := fun _ _ state => (.error .interrupted, state)
        fetchMe := fun _ state => (.error .interrupted, state)
        startOrchestration := fun _ _ _ _ state => (.ok (told accepted), state)
        fetchProofJobs := fun _ _ state => (.error .interrupted, state) }
    let submitted := fun accepted => (early.submit (answering accepted) (party "l") (party "r")).1
    let asked := (Submission.submit (answering true late.clock).noting late.login.store late.clock
      late.proofType (party "l") (party "r") (late.tracking.backend, [])).2.2
    early.login.store.load.value = .ok (some session) ∧
      submitted true = .ok (told true) ∧
      (∃ reason, reason ≠ "" ∧ submitted false =
        .error (.desk (.tradeRejected .null reason none (some (told false))))) ∧
      asked = [] := by
  intro session slots party early late told answering submitted asked
  have loaded : early.login.store.load.value = .ok (some session) :=
    (SessionStore.holds_some rfl rfl (by decide +kernel)).load
  have still : late.login.store.load.value = .ok (some session) := loaded
  have admitted : Admitted (some session) early.clock session :=
    ⟨rfl, _, rfl, by decide, by decide⟩
  obtain ⟨-, -, -, -, -, accepts, -⟩ :=
    trade_asked_only_if_admitted loaded (answering true) (party "l") (party "r")
  obtain ⟨-, -, -, -, -, refuses, -⟩ :=
    trade_asked_only_if_admitted loaded (answering false) (party "l") (party "r")
  obtain ⟨-, -, -, ⟨-, asks⟩, -⟩ :=
    trade_asked_only_if_admitted still (answering true) (party "l") (party "r")
  obtain ⟨reason, nonempty, -, refused⟩ := ((refuses session admitted).2 _ rfl).2 rfl
  refine ⟨loaded, ((accepts session admitted).2 _ rfl).1 rfl, ⟨reason, nonempty, refused⟩, ?_⟩
  refine List.eq_nil_iff_forall_not_mem.mpr fun question member => ?_
  obtain ⟨_, ⟨⟨⟩, _, ⟨⟩, _, live⟩, -⟩ := (asks question).mp member
  exact absurd live (by decide)

end Desk

end OtcDesk
