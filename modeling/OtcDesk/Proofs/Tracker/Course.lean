import OtcDesk.Proofs.Tracker.Happening
import OtcDesk.Proofs.Tracker.Turn

namespace OtcDesk

/-- After this outcome the job changes no more. -/
def Outcome.isFinal : Outcome → Bool
  | .jobs answered => answered.head?.any (·.isTerminal)
  | .failed _ => false

namespace View

/-- The view after an answer, unchanged by one that cannot be survived. -/
def follow (view : View) (answer : Except Failure ProofJobsByRun) : View :=
  match Outcome.ofAnswer answer with
  | .ok outcome => view.after outcome
  | .error _ => view

theorem follow_ok (view : View) {answer : Except Failure ProofJobsByRun} {outcome : Outcome}
    (survived : Outcome.ofAnswer answer = .ok outcome) :
    view.follow answer = view.after outcome := by
  simp [follow, survived]

theorem follow_error (view : View) {answer : Except Failure ProofJobsByRun} {failure : Failure}
    (fatal : Outcome.ofAnswer answer = .error failure) : view.follow answer = view := by
  simp [follow, fatal]

theorem run_follow (view : View) (answer : Except Failure ProofJobsByRun) :
    (view.follow answer).workflowRunId = view.workflowRunId := by
  unfold follow
  split
  · rename_i outcome _
    cases outcome with
    | jobs jobs => rfl
    | failed message => rfl
  · rfl

theorem after_whileLoading (view : View) (outcome : Outcome) :
    view.whileLoading.after outcome = view.after outcome := by
  cases outcome with
  | jobs jobs => rfl
  | failed message => rfl

theorem finished_after {view : View} (unfinished : view.finished = false) (outcome : Outcome) :
    (view.after outcome).finished = outcome.isFinal := by
  cases outcome with
  | jobs jobs => rfl
  | failed message => exact unfinished

end View

namespace Tracking

open Tracker

variable {σ : Type}

/-- A fetch under a token whose answer was taken in. -/
structure Exchange where
  token : Option String
  answer : Except Failure ProofJobsByRun

namespace Exchange

/-- After this answer the task goes on. -/
def GoesOn (exchange : Exchange) : Prop :=
  ∃ outcome, Outcome.ofAnswer exchange.answer = .ok outcome ∧ outcome.isFinal = false

/-- This answer shows a job that changes no more. -/
def IsFinal (exchange : Exchange) : Prop :=
  ∃ outcome, Outcome.ofAnswer exchange.answer = .ok outcome ∧ outcome.isFinal = true

/-- This answer cannot be survived. -/
def IsFatal (exchange : Exchange) (failure : Failure) : Prop :=
  Outcome.ofAnswer exchange.answer = .error failure

end Exchange

/-- The deeds of some exchanges: each answer follows upon its fetch. -/
def deedsOf (exchanges : List Exchange) : List Deed :=
  exchanges.flatMap fun exchange => [.asks exchange.token, .takes exchange.token exchange.answer]

/-- What is shown of a run after some exchanges. -/
def viewAfter (run : String) (exchanges : List Exchange) : View :=
  exchanges.foldl (fun view exchange => view.follow exchange.answer) (.starting run)

theorem deedsOf_concat (earlier : List Exchange) (last : Exchange) :
    deedsOf (earlier ++ [last]) =
      deedsOf earlier ++ [.asks last.token, .takes last.token last.answer] := by
  simp [deedsOf]

theorem viewAfter_concat (run : String) (earlier : List Exchange) (last : Exchange) :
    viewAfter run (earlier ++ [last]) = (viewAfter run earlier).follow last.answer := by
  simp [viewAfter]

theorem fold_run (view : View) (exchanges : List Exchange) :
    (exchanges.foldl (fun view exchange => view.follow exchange.answer) view).workflowRunId =
      view.workflowRunId := by
  induction exchanges generalizing view with
  | nil => rfl
  | cons first rest ih => rw [List.foldl_cons, ih, View.run_follow]

/-- The view is always that of the run. -/
theorem viewAfter_run (run : String) (exchanges : List Exchange) :
    (viewAfter run exchanges).workflowRunId = some run := fold_run (.starting run) exchanges

theorem fold_unfinished {view : View} (exchanges : List Exchange) :
    view.finished = false → (∀ exchange ∈ exchanges, exchange.GoesOn) →
      (exchanges.foldl (fun view exchange => view.follow exchange.answer) view).finished = false := by
  induction exchanges generalizing view with
  | nil => exact fun unfinished _ => unfinished
  | cons first rest ih =>
      intro unfinished goOn
      obtain ⟨outcome, survived, open_⟩ := goOn first List.mem_cons_self
      apply ih
      · dsimp only
        rw [View.follow_ok _ survived, View.finished_after unfinished]
        exact open_
      · exact fun exchange member => goOn exchange (List.mem_cons_of_mem _ member)

/-- As long as the task goes on, the view is not a finished one. -/
theorem viewAfter_unfinished (run : String) {exchanges : List Exchange}
    (goOn : ∀ exchange ∈ exchanges, exchange.GoesOn) :
    (viewAfter run exchanges).finished = false :=
  fold_unfinished exchanges rfl goOn

/-- The course of a task: its deeds and exchanges, what it shows, and where it stands. -/
inductive Course (run : String) : List Deed → List Exchange → View → PollerPhase → Prop where
  | unbegun : Course run [] [] (.starting run) .scheduled
  | waiting (exchanges : List Exchange) (goOn : ∀ exchange ∈ exchanges, exchange.GoesOn)
      (token : Option String) (onTheWay : Option Failure) (due : Rat) :
      Course run (deedsOf exchanges ++ [.asks token]) exchanges
        (viewAfter run exchanges).whileLoading (.fetching token onTheWay due)
  | resting (exchanges : List Exchange) (goOn : ∀ exchange ∈ exchanges, exchange.GoesOn) :
      Course run (deedsOf exchanges) exchanges (viewAfter run exchanges) .resting
  | finished (earlier : List Exchange) (last : Exchange)
      (goOn : ∀ exchange ∈ earlier, exchange.GoesOn) (final : last.IsFinal) :
      Course run (deedsOf (earlier ++ [last])) (earlier ++ [last])
        (viewAfter run (earlier ++ [last])) (.ended none)
  | balked (exchanges : List Exchange) (goOn : ∀ exchange ∈ exchanges, exchange.GoesOn)
      (fault : Fault) :
      Course run (deedsOf exchanges ++ [.balks fault]) exchanges
        (viewAfter run exchanges).whileLoading (.ended (some (.fault fault)))
  | broken (earlier : List Exchange) (last : Exchange) (failure : Failure)
      (goOn : ∀ exchange ∈ earlier, exchange.GoesOn) (fatal : last.IsFatal failure) :
      Course run (deedsOf (earlier ++ [last])) (earlier ++ [last])
        (viewAfter run (earlier ++ [last])).whileLoading (.ended (some failure))

/-- A task may have opened an exchange by a fetch, or have failed to. -/
inductive Opening : List Deed → Prop where
  | none : Opening []
  | asked (token : Option String) : Opening [.asks token]
  | balked (fault : Fault) : Opening [.balks fault]

/-- The view of a task follows from its answers, except that it may show it as loading. -/
theorem Course.shows {run : String} {deeds : List Deed} {exchanges : List Exchange} {view : View}
    {phase : PollerPhase} (course : Course run deeds exchanges view phase) :
    (∃ opening, Opening opening ∧ deeds = deedsOf exchanges ++ opening) ∧
      (view = viewAfter run exchanges ∨ view = (viewAfter run exchanges).whileLoading) := by
  cases course with
  | unbegun => exact ⟨⟨[], .none, rfl⟩, .inl rfl⟩
  | waiting exchanges goOn token onTheWay due => exact ⟨⟨_, .asked token, rfl⟩, .inr rfl⟩
  | resting exchanges goOn => exact ⟨⟨[], .none, (List.append_nil _).symm⟩, .inl rfl⟩
  | finished earlier last goOn final => exact ⟨⟨[], .none, (List.append_nil _).symm⟩, .inl rfl⟩
  | balked exchanges goOn fault => exact ⟨⟨_, .balked fault, rfl⟩, .inr rfl⟩
  | broken earlier last failure goOn fatal =>
      exact ⟨⟨[], .none, (List.append_nil _).symm⟩, .inr rfl⟩

/-- An answer that is taken in while the view shows that it is loading. -/
theorem Course.take {run : String} {exchanges : List Exchange} {after : View}
    {phase : PollerPhase} (goOn : ∀ exchange ∈ exchanges, exchange.GoesOn) (token : Option String)
    {answer : Except Failure ProofJobsByRun}
    (settles : Settles (viewAfter run exchanges).whileLoading answer after phase) :
    Course run (deedsOf exchanges ++ [.asks token, .takes token answer])
      (exchanges ++ [⟨token, answer⟩]) after phase := by
  have unfinished := viewAfter_unfinished run goOn
  have followed := viewAfter_concat run exchanges ⟨token, answer⟩
  rw [← deedsOf_concat exchanges ⟨token, answer⟩]
  unfold Settles at settles
  cases read : Outcome.ofAnswer answer with
  | error failure =>
      rw [read] at settles
      obtain ⟨shown, stands⟩ := settles
      have same : viewAfter run (exchanges ++ [⟨token, answer⟩]) = viewAfter run exchanges := by
        rw [followed, View.follow_error _ read]
      rw [shown, stands, ← same]
      exact .broken exchanges ⟨token, answer⟩ failure goOn read
  | ok outcome =>
      rw [read] at settles
      obtain ⟨shown, stands⟩ := settles
      rw [View.after_whileLoading] at shown
      have same : viewAfter run (exchanges ++ [⟨token, answer⟩]) = after := by
        rw [followed, View.follow_ok _ read, shown]
      rw [shown, View.finished_after unfinished] at stands
      rw [← same]
      cases final : outcome.isFinal with
      | true =>
          rw [final, if_pos rfl] at stands
          rw [stands]
          exact .finished exchanges ⟨token, answer⟩ goOn ⟨outcome, read, final⟩
      | false =>
          rw [final, if_neg Bool.false_ne_true] at stands
          rw [stands]
          apply Course.resting
          intro exchange member
          rcases List.mem_append.mp member with earlier | last
          · exact goOn exchange earlier
          · obtain rfl := List.mem_singleton.mp last
            exact ⟨outcome, read, final⟩

/-- A task that waits for no answer goes on with a poll. -/
theorem Course.poll {run : String} {exchanges : List Exchange} {new : List Deed} {after : View}
    {next : PollerPhase} (goOn : ∀ exchange ∈ exchanges, exchange.GoesOn)
    (turn : LiveTurn (viewAfter run exchanges) after none new next) :
    ∃ later, Course run (deedsOf exchanges ++ new) later after next := by
  cases turn with
  | balks fault shown =>
      rw [shown]
      exact ⟨exchanges, .balked exchanges goOn fault⟩
  | asks token onTheWay due shown =>
      rw [shown]
      exact ⟨exchanges, .waiting exchanges goOn token onTheWay due⟩
  | asksAndTakes token answer next settles => exact ⟨_, Course.take goOn token settles⟩

/-- A task on its course that has not ended goes on with its turn. -/
theorem Course.turn {run : String} {deeds new : List Deed} {exchanges : List Exchange}
    {view after : View} {phase next : PollerPhase} (course : Course run deeds exchanges view phase)
    (atWork : ∀ failure, phase ≠ .ended failure)
    (turn : LiveTurn view after (pending? phase) new next) :
    ∃ later, Course run (deeds ++ new) later after next := by
  cases course with
  | unbegun =>
      have none_ : ∀ exchange ∈ ([] : List Exchange), exchange.GoesOn := by simp
      exact Course.poll none_ turn
  | resting exchanges goOn => exact Course.poll goOn turn
  | waiting exchanges goOn token onTheWay due =>
      cases turn with
      | takes token answer next settles =>
          rw [List.append_assoc]
          exact ⟨_, Course.take goOn token settles⟩
  | finished earlier last goOn final => exact absurd rfl (atWork _)
  | balked exchanges goOn fault => exact absurd rfl (atWork _)
  | broken earlier last failure goOn fatal => exact absurd rfl (atWork _)

end Tracking

end OtcDesk
