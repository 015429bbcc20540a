import OtcDesk.Proofs.Tracker.Frame

namespace OtcDesk

namespace Agenda

/-- Those who will go on, now or later. -/
def wakers (agenda : Agenda) : List Waker := agenda.ready ++ agenda.alarms.map (·.waker)

theorem wakers_call (agenda : Agenda) (waker : Waker) :
    (agenda.call waker).wakers.Perm (waker :: agenda.wakers) := by
  simp only [wakers, call, List.append_assoc, List.singleton_append]
  exact List.perm_middle

theorem wakers_setAlarm (agenda : Agenda) (due : Rat) (waker : Waker) :
    (agenda.setAlarm due waker).wakers.Perm (waker :: agenda.wakers) := by
  simp only [wakers, setAlarm, List.map_append, ← List.append_assoc]
  exact List.perm_append_singleton waker _

theorem wakers_delay (agenda : Agenda) (seconds : Rat) (waker : Waker) :
    (agenda.delay seconds waker).wakers.Perm (waker :: agenda.wakers) := by
  unfold delay
  split
  · exact wakers_call agenda waker
  · exact wakers_setAlarm agenda _ waker

/-- Someone who waits for no alarm is not roused. -/
theorem rouse_idle {agenda : Agenda} (idle : agenda.wakers = []) (waker : Waker) :
    agenda.rouse waker = agenda := by
  obtain ⟨_, noAlarms⟩ := List.append_eq_nil_iff.mp idle
  simp [rouse, List.map_eq_nil_iff.mp noAlarms]

/-- Without anyone to go on there is no next turn. -/
theorem next?_idle {agenda : Agenda} (idle : agenda.wakers = []) (limit : Option Rat) :
    agenda.next? limit = none := by
  obtain ⟨noneReady, noAlarms⟩ := List.append_eq_nil_iff.mp idle
  simp [next?, nextDue?, noneReady, List.map_eq_nil_iff.mp noAlarms]

/-- The only one to go on has the next turn, and then there is no one. -/
theorem next?_sole {agenda : Agenda} {waker : Waker} (sole : agenda.wakers = [waker]) :
    ∃ rest, agenda.next? none = some (waker, rest) ∧ rest.wakers = [] := by
  obtain ⟨now, ready, alarms⟩ := agenda
  cases ready with
  | nil =>
      obtain ⟨alarm, rfl, rfl⟩ := List.map_eq_singleton_iff.mp sole
      refine ⟨{ now := alarm.due }, ?_, rfl⟩
      simp [next?, nextDue?, isWithin, moveTo, List.partition_eq_filter_filter]
  | cons first others =>
      obtain ⟨rfl, nobody⟩ := List.cons.inj sole
      exact ⟨_, rfl, nobody⟩

end Agenda

/-- A task that stands here is about to poll. -/
def PollerPhase.isFree : PollerPhase → Bool
  | .scheduled | .resting => true
  | .fetching .. | .ended _ => false

namespace Tracking

open Tracker

variable {σ : Type} {backend : Backend σ} {store : Option SessionStore} {tracking : Tracking σ}
  {index : Nat} {poller : Poller}

/-- What a fetch brings, and the backend after it. -/
def heard (backend : Backend σ) (run : String) (token : Option String)
    (onTheWay : Option Failure) (state : σ) : Except Failure ProofJobsByRun × σ :=
  match onTheWay with
  | some failure => (.error failure, state)
  | none => backend.fetchProofJobs run token state

theorem answerTo_eq (backend : Backend σ) (tracking : Tracking σ) (run : String)
    (token : Option String) (onTheWay : Option Failure) :
    answerTo backend tracking run token onTheWay =
      (heard backend run token onTheWay tracking.backend).1 := by
  cases onTheWay with
  | none => rfl
  | some failure => rfl

/-- Who goes on after a task: the task itself, or whoever waits for its end. -/
def successors (tracking : Tracking σ) (index : Nat) : PollerPhase → List Waker
  | .ended _ => if tracking.isWatched index then [.listener] else []
  | .scheduled | .fetching .. | .resting => [.poller index]

/-- At most one goes on after the turn of a task. -/
theorem successors_few (tracking : Tracking σ) (index : Nat) (phase : PollerPhase) :
    tracking.successors index phase = [] ∨
      ∃ waker, tracking.successors index phase = [waker] := by
  cases phase with
  | scheduled => exact .inr ⟨_, rfl⟩
  | fetching token onTheWay due => exact .inr ⟨_, rfl⟩
  | resting => exact .inr ⟨_, rfl⟩
  | ended failure =>
      rw [successors]
      cases tracking.isWatched index with
      | true => exact .inr ⟨_, rfl⟩
      | false => exact .inl rfl

/-- The turn of a task has left it at a phase and called its successors, and nothing else. -/
structure HandsOver (before after : Tracking σ) (index : Nat) (phase : PollerPhase) : Prop where
  pacing : after.pacing = before.pacing
  backend : after.backend = before.backend
  listener : after.listener = before.listener
  stands : ∃ poller, after.tracker.pollers[index]? = some poller ∧ poller.phase = phase
  wakers : after.tracker.agenda.wakers.Perm
    (before.successors index phase ++ before.tracker.agenda.wakers)

/-- The turn of a task adds at most one to the agenda. -/
theorem HandsOver.wakers_length {before after : Tracking σ} {phase : PollerPhase}
    (hands : HandsOver before after index phase) :
    after.tracker.agenda.wakers.length ≤ before.tracker.agenda.wakers.length + 1 := by
  have called := hands.wakers.length_eq
  rw [List.length_append] at called
  rcases successors_few before index phase with nobody | ⟨waker, sole⟩
  · rw [nobody, List.length_nil] at called
    omega
  · rw [sole, List.length_singleton] at called
    omega

theorem enter_present (present : tracking.tracker.pollers[index]? = some poller)
    (phase : PollerPhase) :
    (tracking.enter index phase).tracker.pollers[index]? = some { poller with phase } := by
  simp [enter, onTracker, modifyPoller, present]

theorem finish_handsOver (present : tracking.tracker.pollers[index]? = some poller)
    (failure : Option Failure) :
    HandsOver tracking (tracking.finish index failure) index (.ended failure) := by
  have entered := enter_present present (.ended failure)
  have same : (tracking.enter index (.ended failure)).isWatched index = tracking.isWatched index :=
    rfl
  unfold finish
  dsimp only
  rw [same]
  cases watched : tracking.isWatched index with
  | true =>
      refine ⟨rfl, rfl, rfl, ⟨_, entered, rfl⟩, ?_⟩
      rw [successors, watched]
      exact Agenda.wakers_call _ _
  | false =>
      refine ⟨rfl, rfl, rfl, ⟨_, entered, rfl⟩, ?_⟩
      rw [successors, watched]
      exact List.Perm.refl _

/-- A task that was not asked to stop goes on after its delay. -/
theorem suspend_wanted (present : tracking.tracker.pollers[index]? = some poller)
    (wanted : poller.cancelled = false) (phase : PollerPhase) (seconds : Rat) :
    tracking.suspend index phase seconds =
      (tracking.enter index phase).onAgenda (·.delay seconds (.poller index)) := by
  have uncalled : (tracking.enter index phase).tracker.pollers[index]?.any (·.cancelled) = false := by
    rw [enter_present present phase]
    exact wanted
  unfold suspend
  dsimp only
  exact if_neg (by simp [onAgenda, onTracker, uncalled])

theorem suspend_handsOver (present : tracking.tracker.pollers[index]? = some poller)
    (wanted : poller.cancelled = false) (phase : PollerPhase)
    (goesOn : tracking.successors index phase = [.poller index]) (seconds : Rat) :
    HandsOver tracking (tracking.suspend index phase seconds) index phase := by
  rw [suspend_wanted present wanted]
  refine ⟨rfl, rfl, rfl, ⟨_, enter_present present phase, rfl⟩, ?_⟩
  rw [goesOn]
  exact Agenda.wakers_delay _ _ _

theorem rest_handsOver (present : tracking.tracker.pollers[index]? = some poller)
    (wanted : poller.cancelled = false) (resting : Poller) :
    HandsOver tracking (tracking.rest index resting) index
      (phaseAfterPoll tracking.tracker.board resting.generation) := by
  unfold rest phaseAfterPoll
  dsimp only
  split
  · exact finish_handsOver present none
  · have planned : (tracking.onTracker (·.modifyPoller index fun poller =>
        { poller with nextAt := resting.nextAt + tracking.tracker.interval })).tracker.pollers[index]? =
        some { poller with nextAt := resting.nextAt + tracking.tracker.interval } := by
      simp [onTracker, modifyPoller, present]
    obtain ⟨pacing, state, listener, stands, wakers⟩ :=
      suspend_handsOver planned wanted .resting rfl
        (restingTime tracking.tracker.agenda.now (resting.nextAt + tracking.tracker.interval))
    exact ⟨pacing, state, listener, stands, wakers⟩

/-- A report changes neither the tasks nor the agenda nor the interval. -/
theorem report_keeps (tracker : Tracker) (poller : Poller) (outcome : Outcome)
    (quiet : tracker.orders = []) :
    (report tracker poller outcome).pollers = tracker.pollers ∧
      (report tracker poller outcome).agenda = tracker.agenda ∧
      (report tracker poller outcome).interval = tracker.interval := by
  cases current : tracker.board.isCurrent poller.generation with
  | false =>
      rw [report_superseded tracker outcome current]
      exact ⟨rfl, rfl, rfl⟩
  | true =>
      rw [report_current tracker outcome quiet current]
      exact ⟨rfl, rfl, rfl⟩

/-- An answer that arrives changes the backend, and it ends the task or is reported. -/
theorem receive_eq (backend : Backend σ) (tracking : Tracking σ) (index : Nat) (poller : Poller)
    (token : Option String) (onTheWay : Option Failure) :
    tracking.receive backend index poller token onTheWay =
      let brought := heard backend poller.run token onTheWay tracking.backend
      match Outcome.ofAnswer brought.1 with
      | .error failure => { tracking with backend := brought.2 }.finish index (some failure)
      | .ok outcome =>
        ({ tracking with backend := brought.2 }.onTracker (report · poller outcome)).rest index
          poller := by
  cases onTheWay with
  | none => rfl
  | some failure => rfl

theorem receive_handsOver (quiet : tracking.tracker.orders = [])
    (present : tracking.tracker.pollers[index]? = some poller) (wanted : poller.cancelled = false)
    (backend : Backend σ) (asking : Poller) (token : Option String) (onTheWay : Option Failure) :
    ∃ phase, HandsOver
      { tracking with backend := (heard backend asking.run token onTheWay tracking.backend).2 }
      (tracking.receive backend index asking token onTheWay) index phase := by
  rw [receive_eq]
  dsimp only
  generalize heard backend asking.run token onTheWay tracking.backend = brought
  let answered : Tracking σ := { tracking with backend := brought.2 }
  cases Outcome.ofAnswer brought.1 with
  | error failure =>
      have presentThen : answered.tracker.pollers[index]? = some poller := present
      exact ⟨_, finish_handsOver presentThen (some failure)⟩
  | ok outcome =>
      obtain ⟨pollers, agenda, -⟩ := report_keeps tracking.tracker asking outcome quiet
      have presentThen : (answered.onTracker (report · asking outcome)).tracker.pollers[index]? =
          some poller := by
        rw [onTracker, pollers]
        exact present
      obtain ⟨pacing, state, listener, stands, wakers⟩ :=
        rest_handsOver presentThen wanted asking
      refine ⟨_, pacing, state, listener, stands, ?_⟩
      rw [onTracker, agenda] at wakers
      exact wakers

/-- A fetch whose answer is due later. -/
theorem fetch_handsOver_later (present : tracking.tracker.pollers[index]? = some poller)
    (wanted : poller.cancelled = false) (backend : Backend σ) (asking : Poller)
    (token : Option String) (later : 0 < tracking.pacing.next.1) :
    ∃ due, HandsOver { tracking with pacing := tracking.pacing.next.2.2 }
      (tracking.fetch backend index asking token) index
      (.fetching token tracking.pacing.next.2.1 due) := by
  let begun : Tracking σ :=
    { tracking.onTracker (·.see (.fetch asking.run token)) with pacing := tracking.pacing.next.2.2 }
  have fetched : tracking.fetch backend index asking token =
      begun.suspend index (.fetching token tracking.pacing.next.2.1
        (begun.tracker.agenda.now + tracking.pacing.next.1)) tracking.pacing.next.1 :=
    if_neg (Rat.not_le.mpr later)
  have presentThen : begun.tracker.pollers[index]? = some poller := present
  obtain ⟨pacing, state, listener, stands, wakers⟩ :=
    suspend_handsOver presentThen wanted (.fetching token tracking.pacing.next.2.1
      (begun.tracker.agenda.now + tracking.pacing.next.1)) rfl tracking.pacing.next.1
  rw [fetched]
  exact ⟨_, pacing, state, listener, stands, wakers⟩

/-- A fetch whose answer is there at once. -/
theorem fetch_handsOver_now (quiet : tracking.tracker.orders = [])
    (present : tracking.tracker.pollers[index]? = some poller) (wanted : poller.cancelled = false)
    (backend : Backend σ) (asking : Poller) (token : Option String)
    (now : tracking.pacing.next.1 ≤ 0) :
    ∃ phase, HandsOver
      { tracking with
        pacing := tracking.pacing.next.2.2
        backend :=
          (heard backend asking.run token tracking.pacing.next.2.1 tracking.backend).2 }
      (tracking.fetch backend index asking token) index phase := by
  let begun : Tracking σ :=
    { tracking.onTracker (·.see (.fetch asking.run token)) with pacing := tracking.pacing.next.2.2 }
  have fetched : tracking.fetch backend index asking token =
      begun.receive backend index asking token tracking.pacing.next.2.1 := if_pos now
  have presentThen : begun.tracker.pollers[index]? = some poller := present
  have quietThen : begun.tracker.orders = [] := quiet
  obtain ⟨phase, pacing, state, listener, stands, wakers⟩ :=
    receive_handsOver quietThen presentThen wanted backend asking token tracking.pacing.next.2.1
  rw [fetched]
  exact ⟨phase, pacing, state, listener, stands, wakers⟩

/-- The moment that the poll of a task is planned at; the first one is planned as it begins. -/
def plannedAt (now : Rat) (poller : Poller) : Rat :=
  match poller.phase with
  | .scheduled => now
  | .fetching .. | .resting | .ended _ => poller.nextAt

/-- A task has shown that it is loading and is about to fetch, with all else as it was. -/
structure AboutToFetch (before begun : Tracking σ) (index : Nat) (poller asking : Poller) : Prop where
  run : asking.run = poller.run
  generation : asking.generation = poller.generation
  planned : asking.nextAt = plannedAt before.tracker.agenda.now poller
  wanted : asking.cancelled = false
  present : begun.tracker.pollers[index]? = some asking
  quiet : begun.tracker.orders = []
  board : begun.tracker.board =
    { before.tracker.board with view := before.tracker.board.view.whileLoading }
  sightings : begun.tracker.sightings = before.tracker.sightings ++
    [(before.tracker.agenda.now, .update before.tracker.board.view.whileLoading)]
  agenda : begun.tracker.agenda = before.tracker.agenda
  interval : begun.tracker.interval = before.tracker.interval
  pacing : begun.pacing = before.pacing
  backend : begun.backend = before.backend
  listener : begun.listener = before.listener

/-- The turn of a task about to poll shows that it loads, and fetches under the stored token. -/
theorem wakePoller_polls (backend : Backend σ) (store : Option SessionStore)
    (quiet : tracking.tracker.orders = [])
    (present : tracking.tracker.pollers[index]? = some poller)
    (current : tracking.tracker.board.isCurrent poller.generation = true)
    (wanted : poller.cancelled = false) (free : poller.phase.isFree = true) :
    ∃ (begun : Tracking σ) (asking : Poller), AboutToFetch tracking begun index poller asking ∧
      tracking.wakePoller backend store index poller =
        match (loadToken store).value with
        | .error fault => begun.finish index (some (.fault fault))
        | .ok token => begun.fetch backend index asking token := by
  obtain ⟨run, generation, phase, nextAt, cancelled⟩ := poller
  dsimp only at current wanted free
  subst wanted
  cases phase with
  | ended failure => cases free
  | fetching sent onTheWay due => cases free
  | resting =>
      refine ⟨tracking.loading store, _,
        ⟨rfl, rfl, rfl, rfl, present, quiet, rfl, rfl, rfl, rfl, rfl, rfl, rfl⟩, ?_⟩
      simp only [wakePoller, Bool.false_eq_true, if_false]
      exact poll_current quiet current
  | scheduled =>
      let asking : Poller := ⟨run, generation, .scheduled, tracking.tracker.agenda.now, false⟩
      have adopted := adopt_present present asking
      have quietThen : (tracking.adopt index asking).tracker.orders = [] := quiet
      have currentThen : (tracking.adopt index asking).tracker.board.isCurrent asking.generation =
          true := current
      refine ⟨(tracking.adopt index asking).loading store, asking,
        ⟨rfl, rfl, rfl, rfl, adopted, quiet, rfl, rfl, rfl, rfl, rfl, rfl, rfl⟩, ?_⟩
      have begins : tracking.wakePoller backend store index
            ⟨run, generation, .scheduled, nextAt, false⟩ =
          (tracking.adopt index asking).poll backend store index asking := rfl
      exact begins.trans (poll_current quietThen currentThen)

end Tracking

end OtcDesk
