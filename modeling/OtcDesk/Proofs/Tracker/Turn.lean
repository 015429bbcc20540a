import OtcDesk.Proofs.Tracker.Frame

namespace OtcDesk.Tracking

open Tracker

variable {σ : Type} {tracking : Tracking σ} {index : Nat} {poller : Poller}

/-- A polling task begins a fetch, takes in its answer, or fails to begin one. -/
inductive Deed where
  | asks (token : Option String)
  | takes (token : Option String) (answer : Except Failure ProofJobsByRun)
  | balks (fault : Fault)

/-- The fetches that a task has begun, by what it did. -/
def fetchesOf (run : String) (deeds : List Deed) : List (String × Option String) :=
  deeds.filterMap fun
    | .asks token => some (run, token)
    | .takes .. | .balks _ => none

theorem fetchesOf_append (run : String) (earlier later : List Deed) :
    fetchesOf run (earlier ++ later) = fetchesOf run earlier ++ fetchesOf run later :=
  List.filterMap_append

/-- What a task does at a turn in which it polls: without latency, the answer is there at once. -/
def deedsOfPoll (backend : Backend σ) (store : Option SessionStore) (tracking : Tracking σ)
    (run : String) : List Deed :=
  match (loadToken store).value with
  | .error fault => [.balks fault]
  | .ok token =>
    if tracking.pacing.next.1 ≤ 0 then
      [.asks token, .takes token (answerTo backend tracking run token tracking.pacing.next.2.1)]
    else [.asks token]

/-- What a task does at its turn. -/
def deedsOfTurn (backend : Backend σ) (store : Option SessionStore) (tracking : Tracking σ)
    (poller : Poller) : List Deed :=
  match poller.phase with
  | .ended _ => []
  | .fetching token onTheWay due =>
    if poller.cancelled && (!tracking.pacing.shielded || tracking.tracker.agenda.now < due) then []
    else [.takes token (answerTo backend tracking poller.run token onTheWay)]
  | .scheduled | .resting =>
    if poller.cancelled || !tracking.tracker.board.isCurrent poller.generation then []
    else deedsOfPoll backend store tracking poller.run

/-- The token of the fetch whose answer a task waits for. -/
def pending? : PollerPhase → Option (Option String)
  | .fetching token _ _ => some token
  | _ => none

/-- An answer is written on the board, or it ends the task and leaves the board as it is. -/
def Settles (before : View) (answer : Except Failure ProofJobsByRun) (after : View)
    (phase : PollerPhase) : Prop :=
  match Outcome.ofAnswer answer with
  | .ok outcome =>
    after = before.after outcome ∧ phase = if after.finished then .ended none else .resting
  | .error failure => after = before ∧ phase = .ended (some failure)

/-- What the turn of a task of the current generation comes to. -/
inductive LiveTurn (before after : View) :
    Option (Option String) → List Deed → PollerPhase → Prop where
  | balks (fault : Fault) (view : after = before.whileLoading) :
      LiveTurn before after none [.balks fault] (.ended (some (.fault fault)))
  | asks (token : Option String) (onTheWay : Option Failure) (due : Rat)
      (view : after = before.whileLoading) :
      LiveTurn before after none [.asks token] (.fetching token onTheWay due)
  | asksAndTakes (token : Option String) (answer : Except Failure ProofJobsByRun)
      (phase : PollerPhase) (settles : Settles before.whileLoading answer after phase) :
      LiveTurn before after none [.asks token, .takes token answer] phase
  | takes (token : Option String) (answer : Except Failure ProofJobsByRun) (phase : PollerPhase)
      (settles : Settles before answer after phase) :
      LiveTurn before after (some token) [.takes token answer] phase

/-- A task of the current generation takes in an answer. -/
theorem receive_live {before : PollerPhase} (backend : Backend σ) (token : Option String)
    (onTheWay : Option Failure) (quiet : tracking.tracker.orders = [])
    (current : tracking.tracker.board.isCurrent poller.generation = true)
    (stands : tracking.tracker.Stands index poller before) :
    let after := (tracking.receive backend index poller token onTheWay).tracker
    ∃ phase, Settles tracking.tracker.board.view
        (answerTo backend tracking poller.run token onTheWay) after.board.view phase ∧
      after.Stands index poller phase := by
  dsimp only
  unfold Settles
  cases read : Outcome.ofAnswer (answerTo backend tracking poller.run token onTheWay) with
  | error failure =>
      obtain ⟨answered, same, received⟩ := receive_error read
      have enters := finish_enters answered index (some failure)
      rw [← same] at stands
      rw [received, enters.looksAs.board, same]
      exact ⟨_, ⟨rfl, rfl⟩, enters.stands stands⟩
  | ok outcome =>
      obtain ⟨answered, same, received⟩ := receive_ok read
      rw [report_current _ outcome quiet current] at same
      have looks := rest_looksAs answered index poller
      have shown : answered.tracker.board.view = tracking.tracker.board.view.after outcome := by
        rw [same]
        rfl
      have still : answered.tracker.board.isCurrent poller.generation = true := by
        rw [same]
        exact current
      have standsThen : answered.tracker.Stands index poller before := by
        rw [same]
        exact stands
      refine ⟨phaseAfterPoll answered.tracker.board poller.generation, ⟨?_, ?_⟩, ?_⟩
      · rw [received, looks.board, shown]
      · rw [received, looks.board, phaseAfterPoll, still]
        rfl
      · rw [received]
        exact rest_stands standsThen

/-- A task of the current generation makes a fetch, which it takes the answer to now or later. -/
theorem fetch_live {before : PollerPhase} (backend : Backend σ) (tracking : Tracking σ)
    (token : Option String) (quiet : tracking.tracker.orders = [])
    (current : tracking.tracker.board.isCurrent poller.generation = true)
    (stands : tracking.tracker.Stands index poller before) {view : View}
    (loading : tracking.tracker.board.view = view.whileLoading) :
    let after := (tracking.fetch backend index poller token).tracker
    let deeds := if tracking.pacing.next.1 ≤ 0 then
      [.asks token, .takes token (answerTo backend tracking poller.run token
        tracking.pacing.next.2.1)]
      else [.asks token]
    ∃ phase, LiveTurn view after.board.view none deeds phase ∧
      after.Stands index poller phase := by
  obtain ⟨begun, seen, sameBackend, fetched⟩ := fetch_eq backend tracking index poller token
  have shown : begun.tracker.board.view = view.whileLoading := by
    rw [seen]
    exact loading
  have standsThen : begun.tracker.Stands index poller before := by
    rw [seen]
    exact stands
  dsimp only
  rw [fetched]
  by_cases instant : tracking.pacing.next.1 ≤ 0
  · have quietThen : begun.tracker.orders = [] := by
      rw [seen]
      exact quiet
    have currentThen : begun.tracker.board.isCurrent poller.generation = true := by
      rw [seen]
      exact current
    obtain ⟨phase, settles, standsNext⟩ := receive_live backend token
      tracking.pacing.next.2.1 quietThen currentThen standsThen
    have sameAnswer : answerTo backend begun poller.run token tracking.pacing.next.2.1 =
        answerTo backend tracking poller.run token tracking.pacing.next.2.1 := by
      simp only [answerTo, sameBackend]
    rw [shown, sameAnswer] at settles
    rw [if_pos instant, if_pos instant]
    exact ⟨phase, .asksAndTakes token _ phase settles, standsNext⟩
  · have enters := suspend_enters begun index
      (.fetching token tracking.pacing.next.2.1
        (begun.tracker.agenda.now + tracking.pacing.next.1)) tracking.pacing.next.1
    rw [if_neg instant, if_neg instant]
    refine ⟨_, .asks token _ _ ?_, enters.stands standsThen⟩
    rw [enters.looksAs.board, shown]

/-- A task of the current generation polls. -/
theorem poll_live {before : PollerPhase} (backend : Backend σ) (store : Option SessionStore)
    (tracking : Tracking σ) (poller : Poller) (quiet : tracking.tracker.orders = [])
    (current : tracking.tracker.board.isCurrent poller.generation = true)
    (stands : tracking.tracker.Stands index poller before) :
    let after := (tracking.poll backend store index poller).tracker
    let deeds := deedsOfPoll backend store tracking poller.run
    ∃ phase, LiveTurn tracking.tracker.board.view after.board.view none deeds phase ∧
      after.Stands index poller phase := by
  dsimp only
  rw [poll_current quiet current]
  unfold deedsOfPoll
  cases loaded : (loadToken store).value with
  | error fault =>
      have enters := finish_enters (tracking.loading store) index (some (.fault fault))
      refine ⟨_, .balks fault ?_, enters.stands stands⟩
      rw [enters.looksAs.board]
      rfl
  | ok token => exact fetch_live backend (tracking.loading store) token quiet current stands rfl

/-- The turn of a task of the current generation that was not asked to stop and has not ended. -/
theorem wakePoller_live (backend : Backend σ) (store : Option SessionStore)
    (quiet : tracking.tracker.orders = [])
    (current : tracking.tracker.board.isCurrent poller.generation = true)
    (present : tracking.tracker.pollers[index]? = some poller)
    (wanted : poller.cancelled = false) (atWork : poller.hasEnded = false) :
    let after := (tracking.wakePoller backend store index poller).tracker
    let deeds := deedsOfTurn backend store tracking poller
    ∃ phase, LiveTurn tracking.tracker.board.view after.board.view (pending? poller.phase)
        deeds phase ∧
      after.Stands index poller phase := by
  obtain ⟨run, generation, phase, nextAt, cancelled⟩ := poller
  dsimp only at wanted current
  subst wanted
  have stands := Stands.of_present present
  dsimp only at stands ⊢
  unfold wakePoller deedsOfTurn
  cases phase with
  | ended failure => cases atWork
  | fetching token onTheWay due =>
      obtain ⟨phase, settles, standsNext⟩ :=
        receive_live backend token onTheWay quiet current stands
      simp only [Bool.false_and, Bool.false_eq_true, if_false]
      exact ⟨phase, .takes token _ phase settles, standsNext⟩
  | scheduled =>
      simp only [current, Bool.not_true, Bool.or_false, Bool.false_eq_true, if_false]
      let begun : Poller := ⟨run, generation, .scheduled, tracking.tracker.agenda.now, false⟩
      have adopted : (tracking.adopt index begun).tracker.Stands index begun .scheduled :=
        ⟨tracking.tracker.agenda.now, adopt_present present begun⟩
      exact poll_live backend store (tracking.adopt index begun) begun quiet current adopted
  | resting =>
      simp only [current, Bool.not_true, Bool.or_false, Bool.false_eq_true, if_false]
      exact poll_live backend store _ _ quiet current stands

end OtcDesk.Tracking
