import OtcDesk.Tracker.Polling

namespace OtcDesk

theorem Poller.hasEnded_iff (poller : Poller) :
    poller.hasEnded = true ↔ ∃ failure, poller.phase = .ended failure := by
  unfold Poller.hasEnded
  cases poller.phase <;> simp

namespace Tracker

/-- The generations of the polling tasks. -/
def generations (tracker : Tracker) : List Nat := tracker.pollers.map (·.generation)

/-- The turn of a task leaves these things as they are. -/
structure TurnFrame (index : Nat) (before after : Tracker) : Prop where
  orders : after.orders = before.orders
  generation : after.board.generation = before.board.generation
  others : ∀ other, other ≠ index → after.pollers[other]? = before.pollers[other]?
  identity : after.pollers[index]?.map (fun poller => (poller.run, poller.generation)) =
    before.pollers[index]?.map fun poller => (poller.run, poller.generation)

theorem TurnFrame.refl (index : Nat) (tracker : Tracker) : TurnFrame index tracker tracker :=
  ⟨rfl, rfl, fun _ _ => rfl, rfl⟩

theorem TurnFrame.trans {index : Nat} {first second third : Tracker}
    (earlier : TurnFrame index first second) (later : TurnFrame index second third) :
    TurnFrame index first third where
  orders := later.orders.trans earlier.orders
  generation := later.generation.trans earlier.generation
  others other different := (later.others other different).trans (earlier.others other different)
  identity := later.identity.trans earlier.identity

/-- A turn keeps the generations of all tasks. -/
theorem TurnFrame.generations {index : Nat} {before after : Tracker}
    (frame : TurnFrame index before after) : after.generations = before.generations := by
  apply List.ext_getElem?
  intro other
  simp only [Tracker.generations, List.getElem?_map]
  by_cases same : other = index
  · subst same
    have kept := congrArg (Option.map Prod.snd) frame.identity
    simpa only [Option.map_map, Function.comp_def] using kept
  · rw [frame.others other same]

/-- A change of a task that keeps its run and its generation is within the frame. -/
theorem modifyPoller_frame (tracker : Tracker) (index : Nat) (change : Poller → Poller)
    (keeps : ∀ poller ∈ tracker.pollers[index]?,
      (change poller).run = poller.run ∧ (change poller).generation = poller.generation) :
    TurnFrame index tracker (tracker.modifyPoller index change) where
  orders := rfl
  generation := rfl
  others other different := by
    simp [modifyPoller, different.symm]
  identity := by
    simp only [modifyPoller, List.getElem?_modify_eq]
    cases present : tracker.pollers[index]? with
    | none => rfl
    | some poller =>
        obtain ⟨run, generation⟩ := keeps poller present
        simp [run, generation]

/-- Nothing on the board and nothing of what was seen has changed. -/
structure LooksAs (before after : Tracker) : Prop where
  board : after.board = before.board
  sightings : after.sightings = before.sightings

theorem LooksAs.refl (tracker : Tracker) : LooksAs tracker tracker := ⟨rfl, rfl⟩

theorem LooksAs.trans {first second third : Tracker} (earlier : LooksAs first second)
    (later : LooksAs second third) : LooksAs first third :=
  ⟨later.board.trans earlier.board, later.sightings.trans earlier.sightings⟩

/-- The fetches that were seen to begin, with their runs and tokens. -/
def fetches (tracker : Tracker) : List (String × Option String) :=
  tracker.sightings.filterMap fun
    | (_, .fetch run token) => some (run, token)
    | (_, .update _) => none

theorem LooksAs.fetches {before after : Tracker} (looks : LooksAs before after) :
    after.fetches = before.fetches := by
  rw [Tracker.fetches, looks.sightings, Tracker.fetches]

/-- The task of a number is this one, at a phase and with some moment for its next poll. -/
def Stands (tracker : Tracker) (index : Nat) (poller : Poller) (phase : PollerPhase) : Prop :=
  ∃ moment, tracker.pollers[index]? = some { poller with phase, nextAt := moment }

theorem Stands.of_present {tracker : Tracker} {index : Nat} {poller : Poller}
    (present : tracker.pollers[index]? = some poller) :
    tracker.Stands index poller poller.phase := ⟨poller.nextAt, present⟩

/-- The current generation publishes its view, and without orders nothing else happens. -/
theorem publish_current (tracker : Tracker) {generation : Nat} (view : View)
    (quiet : tracker.orders = []) (current : tracker.board.isCurrent generation = true) :
    tracker.publish generation view =
      { tracker with board := { tracker.board with view } }.see (.update view) := by
  simp [publish, publishWithin, quiet, Board.write?, current, order?, see]

end Tracker

namespace Tracking

variable {σ : Type} {backend : Backend σ} {store : Option SessionStore} {tracking : Tracking σ}
  {index : Nat} {poller : Poller}

open Tracker

/-- A task has entered a phase, and at most the agenda has changed besides. -/
def Enters (tracking : Tracking σ) (index : Nat) (phase : PollerPhase) (after : Tracking σ) : Prop :=
  ∃ agenda, after.tracker = { (tracking.enter index phase).tracker with agenda }

theorem finish_enters (tracking : Tracking σ) (index : Nat) (failure : Option Failure) :
    tracking.Enters index (.ended failure) (tracking.finish index failure) := by
  unfold finish
  dsimp only
  split
  · exact ⟨_, rfl⟩
  · exact ⟨_, rfl⟩

theorem suspend_enters (tracking : Tracking σ) (index : Nat) (phase : PollerPhase)
    (seconds : Rat) : tracking.Enters index phase (tracking.suspend index phase seconds) := by
  unfold suspend
  dsimp only
  split
  · exact ⟨_, rfl⟩
  · exact ⟨_, rfl⟩

theorem Enters.frame {phase : PollerPhase} {after : Tracking σ}
    (enters : tracking.Enters index phase after) :
    TurnFrame index tracking.tracker after.tracker := by
  obtain ⟨agenda, same⟩ := enters
  have entered : TurnFrame index tracking.tracker (tracking.enter index phase).tracker :=
    modifyPoller_frame _ _ _ fun _ _ => ⟨rfl, rfl⟩
  rw [same]
  exact entered.trans ⟨rfl, rfl, fun _ _ => rfl, rfl⟩

theorem Enters.looksAs {phase : PollerPhase} {after : Tracking σ}
    (enters : tracking.Enters index phase after) : LooksAs tracking.tracker after.tracker := by
  obtain ⟨agenda, same⟩ := enters
  rw [same]
  exact ⟨rfl, rfl⟩

theorem Enters.stands {before phase : PollerPhase} {after : Tracking σ}
    (enters : tracking.Enters index phase after)
    (stands : tracking.tracker.Stands index poller before) :
    after.tracker.Stands index poller phase := by
  obtain ⟨agenda, same⟩ := enters
  obtain ⟨moment, present⟩ := stands
  rw [same]
  exact ⟨moment, by simp [enter, onTracker, modifyPoller, present]⟩

/-- Where a task stands after a poll: it has ended if it is superseded or its job changes no more. -/
def phaseAfterPoll (board : Board) (generation : Nat) : PollerPhase :=
  if !board.isCurrent generation || board.view.finished then .ended none else .resting

theorem rest_frame (tracking : Tracking σ) (index : Nat) (poller : Poller) :
    TurnFrame index tracking.tracker (tracking.rest index poller).tracker := by
  unfold rest
  dsimp only
  split
  · exact (finish_enters tracking index none).frame
  · refine TurnFrame.trans ?_ (suspend_enters _ _ _ _).frame
    exact modifyPoller_frame _ _ _ fun _ _ => ⟨rfl, rfl⟩

theorem rest_looksAs (tracking : Tracking σ) (index : Nat) (poller : Poller) :
    LooksAs tracking.tracker (tracking.rest index poller).tracker := by
  unfold rest
  dsimp only
  split
  · exact (finish_enters tracking index none).looksAs
  · refine LooksAs.trans ?_ (suspend_enters _ _ _ _).looksAs
    exact ⟨rfl, rfl⟩

theorem rest_stands {before : PollerPhase} (stands : tracking.tracker.Stands index poller before) :
    (tracking.rest index poller).tracker.Stands index poller
      (phaseAfterPoll tracking.tracker.board poller.generation) := by
  unfold rest phaseAfterPoll
  dsimp only
  split
  · exact (finish_enters tracking index none).stands stands
  · obtain ⟨moment, present⟩ := stands
    have standsThen : Tracker.Stands (tracking.onTracker (·.modifyPoller index fun old =>
        { old with nextAt := poller.nextAt + tracking.tracker.interval })).tracker index poller
        before :=
      ⟨poller.nextAt + tracking.tracker.interval, by simp [onTracker, modifyPoller, present]⟩
    exact (suspend_enters _ _ _ _).stands standsThen

theorem report_superseded (tracker : Tracker) {poller : Poller} (outcome : Outcome)
    (superseded : tracker.board.isCurrent poller.generation = false) :
    report tracker poller outcome = tracker := by
  simp [report, superseded]

/-- A report of the current generation is written on the board and published. -/
theorem report_current (tracker : Tracker) {poller : Poller} (outcome : Outcome)
    (quiet : tracker.orders = [])
    (current : tracker.board.isCurrent poller.generation = true) :
    report tracker poller outcome =
      { tracker with
        remarks := tracker.remarks ++ outcome.remarks poller.run
        board := { tracker.board with view := tracker.board.view.after outcome } }.see
          (.update (tracker.board.view.after outcome)) := by
  simp only [report, current, if_true]
  exact publish_current _ _ quiet current

/-- The answer to a fetch: a failure on the way, or else what the backend says. -/
def answerTo (backend : Backend σ) (tracking : Tracking σ) (run : String) (token : Option String)
    (failure : Option Failure) : Except Failure ProofJobsByRun :=
  match failure with
  | some failure => .error failure
  | none => (backend.fetchProofJobs run token tracking.backend).1

/-- An answer that cannot be survived ends the task. -/
theorem receive_error {token : Option String} {onTheWay : Option Failure} {failure : Failure}
    (fatal : Outcome.ofAnswer (answerTo backend tracking poller.run token onTheWay) =
      .error failure) :
    ∃ answered : Tracking σ, answered.tracker = tracking.tracker ∧
      tracking.receive backend index poller token onTheWay =
        answered.finish index (some failure) := by
  cases onTheWay with
  | none =>
      refine ⟨{ tracking with
        backend := (backend.fetchProofJobs poller.run token tracking.backend).2 }, rfl, ?_⟩
      simp only [receive, answerTo] at fatal ⊢
      rw [fatal]
  | some failure =>
      refine ⟨tracking, rfl, ?_⟩
      simp only [receive, answerTo] at fatal ⊢
      rw [fatal]

/-- Any other answer is reported, and then the task rests or ends. -/
theorem receive_ok {token : Option String} {onTheWay : Option Failure} {outcome : Outcome}
    (survived : Outcome.ofAnswer (answerTo backend tracking poller.run token onTheWay) =
      .ok outcome) :
    ∃ answered : Tracking σ, answered.tracker = report tracking.tracker poller outcome ∧
      tracking.receive backend index poller token onTheWay = answered.rest index poller := by
  cases onTheWay with
  | none =>
      refine ⟨{ tracking with
        backend := (backend.fetchProofJobs poller.run token tracking.backend).2 }.onTracker
          (report · poller outcome), rfl, ?_⟩
      simp only [receive, answerTo] at survived ⊢
      rw [survived]
  | some failure =>
      refine ⟨tracking.onTracker (report · poller outcome), rfl, ?_⟩
      simp only [receive, answerTo] at survived ⊢
      rw [survived]

/-- A fetch is seen when it begins, and its answer arrives at once or later. -/
theorem fetch_eq (backend : Backend σ) (tracking : Tracking σ) (index : Nat) (poller : Poller)
    (token : Option String) :
    ∃ begun : Tracking σ,
      begun.tracker = tracking.tracker.see (.fetch poller.run token) ∧
      begun.backend = tracking.backend ∧
      tracking.fetch backend index poller token =
        if tracking.pacing.next.1 ≤ 0 then
          begun.receive backend index poller token tracking.pacing.next.2.1
        else
          begun.suspend index
            (.fetching token tracking.pacing.next.2.1
              (begun.tracker.agenda.now + tracking.pacing.next.1))
            tracking.pacing.next.1 :=
  ⟨{ tracking.onTracker (·.see (.fetch poller.run token)) with pacing := tracking.pacing.next.2.2 },
    rfl, rfl, rfl⟩

theorem report_frame (tracker : Tracker) (index : Nat) (poller : Poller) (outcome : Outcome)
    (quiet : tracker.orders = []) : TurnFrame index tracker (report tracker poller outcome) := by
  cases current : tracker.board.isCurrent poller.generation with
  | false =>
      rw [report_superseded tracker outcome current]
      exact TurnFrame.refl index tracker
  | true =>
      rw [report_current tracker outcome quiet current]
      exact ⟨rfl, rfl, fun _ _ => rfl, rfl⟩

theorem receive_frame (backend : Backend σ) (tracking : Tracking σ) (index : Nat) (poller : Poller)
    (token : Option String) (onTheWay : Option Failure) (quiet : tracking.tracker.orders = []) :
    TurnFrame index tracking.tracker
      (tracking.receive backend index poller token onTheWay).tracker := by
  cases read : Outcome.ofAnswer (answerTo backend tracking poller.run token onTheWay) with
  | error failure =>
      obtain ⟨answered, same, received⟩ := receive_error read
      rw [received, ← same]
      exact (finish_enters _ _ _).frame
  | ok outcome =>
      obtain ⟨answered, same, received⟩ := receive_ok read
      have reported := report_frame tracking.tracker index poller outcome quiet
      rw [← same] at reported
      rw [received]
      exact reported.trans (rest_frame _ _ _)

theorem fetch_frame (backend : Backend σ) (tracking : Tracking σ) (index : Nat) (poller : Poller)
    (token : Option String) (quiet : tracking.tracker.orders = []) :
    TurnFrame index tracking.tracker (tracking.fetch backend index poller token).tracker := by
  obtain ⟨begun, seen, _, fetched⟩ := fetch_eq backend tracking index poller token
  have start : TurnFrame index tracking.tracker begun.tracker := by
    rw [seen]
    exact ⟨rfl, rfl, fun _ _ => rfl, rfl⟩
  rw [fetched]
  split
  · exact start.trans (receive_frame _ _ _ _ _ _ (start.orders.trans quiet))
  · exact start.trans (suspend_enters _ _ _ _).frame

/-- The tracker after a task of the current generation has shown that it is loading. -/
def loading (store : Option SessionStore) (tracking : Tracking σ) : Tracking σ :=
  let view := tracking.tracker.board.view.whileLoading
  tracking.onTracker fun tracker =>
    { tracker with
      board := { tracker.board with view }
      sightings := tracker.sightings ++ [(tracker.agenda.now, .update view)]
      remarks := tracker.remarks ++ (loadToken store).remarks }

theorem loading_frame (store : Option SessionStore) (tracking : Tracking σ) (index : Nat) :
    TurnFrame index tracking.tracker (tracking.loading store).tracker :=
  ⟨rfl, rfl, fun _ _ => rfl, rfl⟩

theorem poll_superseded (backend : Backend σ) (store : Option SessionStore)
    (tracking : Tracking σ) (index : Nat) (poller : Poller)
    (superseded : tracking.tracker.board.isCurrent poller.generation = false) :
    tracking.poll backend store index poller = tracking.finish index none := by
  simp [poll, superseded]

/-- A poll of the current generation shows that it loads and fetches, if the store can be read. -/
theorem poll_current (quiet : tracking.tracker.orders = [])
    (current : tracking.tracker.board.isCurrent poller.generation = true) :
    tracking.poll backend store index poller =
      match (loadToken store).value with
      | .error fault => (tracking.loading store).finish index (some (.fault fault))
      | .ok token => (tracking.loading store).fetch backend index poller token := by
  have published := publish_current tracking.tracker tracking.tracker.board.view.whileLoading
    quiet current
  simp only [poll, current, Bool.not_true, Bool.false_eq_true, if_false, onTracker, published]
  rfl

theorem poll_frame (backend : Backend σ) (store : Option SessionStore) (tracking : Tracking σ)
    (index : Nat) (poller : Poller) (quiet : tracking.tracker.orders = []) :
    TurnFrame index tracking.tracker (tracking.poll backend store index poller).tracker := by
  cases current : tracking.tracker.board.isCurrent poller.generation with
  | false =>
      rw [poll_superseded _ _ _ _ _ current]
      exact (finish_enters _ _ _).frame
  | true =>
      rw [poll_current quiet current]
      split
      · exact (loading_frame store tracking index).trans (finish_enters _ _ _).frame
      · exact (loading_frame store tracking index).trans (fetch_frame _ _ _ _ _ quiet)

/-- The tracking with this as its task of a number. -/
def adopt (tracking : Tracking σ) (index : Nat) (poller : Poller) : Tracking σ :=
  tracking.onTracker (·.modifyPoller index fun _ => poller)

theorem adopt_present (present : tracking.tracker.pollers[index]? = some poller)
    (adopted : Poller) : (tracking.adopt index adopted).tracker.pollers[index]? = some adopted := by
  simp [adopt, onTracker, modifyPoller, present]

theorem adopt_frame (present : tracking.tracker.pollers[index]? = some poller) (adopted : Poller)
    (run : adopted.run = poller.run) (generation : adopted.generation = poller.generation) :
    TurnFrame index tracking.tracker (tracking.adopt index adopted).tracker := by
  apply modifyPoller_frame
  intro old member
  have same : old = poller := Option.some.inj (member.symm.trans present)
  rw [same]
  exact ⟨run, generation⟩

/-- A turn does nothing, ends a task, puts its stop off, takes in an answer, or polls. -/
theorem wakePoller_cases {motive : Tracking σ → Prop} (backend : Backend σ)
    (store : Option SessionStore) (tracking : Tracking σ) (index : Nat) (poller : Poller)
    (idle : motive tracking) (stopped : motive (tracking.finish index none))
    (putOff : poller.cancelled = true → ∀ due,
      motive ((tracking.adopt index { poller with cancelled := false }).onAgenda
        (·.setAlarm due (.poller index))))
    (answered : ∀ token onTheWay,
      motive (tracking.receive backend index poller token onTheWay))
    (began : ∀ moment, motive ((tracking.adopt index { poller with nextAt := moment }).poll
      backend store index { poller with nextAt := moment }))
    (polled : motive (tracking.poll backend store index poller)) :
    motive (tracking.wakePoller backend store index poller) := by
  unfold wakePoller
  split
  · exact idle
  · split
    · exact stopped
    · exact began _
  · split
    · exact stopped
    · split
      · rename_i asked
        exact putOff (Bool.and_eq_true_iff.mp asked).1 _
      · exact answered _ _
  · split
    · exact stopped
    · exact polled

/-- The turn of a task keeps to its frame. -/
theorem wakePoller_frame (backend : Backend σ) (store : Option SessionStore)
    (quiet : tracking.tracker.orders = [])
    (present : tracking.tracker.pollers[index]? = some poller) :
    TurnFrame index tracking.tracker
      (tracking.wakePoller backend store index poller).tracker := by
  apply wakePoller_cases (motive := fun after => TurnFrame index tracking.tracker after.tracker)
  case idle => exact TurnFrame.refl _ _
  case stopped => exact (finish_enters _ _ _).frame
  case putOff =>
    intro _ due
    have adopted := adopt_frame present { poller with cancelled := false } rfl rfl
    exact ⟨adopted.orders, adopted.generation, adopted.others, adopted.identity⟩
  case answered => exact fun _ _ => receive_frame _ _ _ _ _ _ quiet
  case began =>
    intro moment
    have adopted := adopt_frame present { poller with nextAt := moment } rfl rfl
    exact adopted.trans (poll_frame _ _ _ _ _ (adopted.orders.trans quiet))
  case polled => exact poll_frame _ _ _ _ _ quiet

theorem receive_superseded {token : Option String} {onTheWay : Option Failure}
    (superseded : tracking.tracker.board.isCurrent poller.generation = false) :
    LooksAs tracking.tracker
      (tracking.receive backend index poller token onTheWay).tracker := by
  cases read : Outcome.ofAnswer (answerTo backend tracking poller.run token onTheWay) with
  | error failure =>
      obtain ⟨answered, same, received⟩ := receive_error read
      rw [received, ← same]
      exact (finish_enters _ _ _).looksAs
  | ok outcome =>
      obtain ⟨answered, same, received⟩ := receive_ok read
      rw [report_superseded _ _ superseded] at same
      rw [received, ← same]
      exact rest_looksAs _ _ _

/-- The turn of a superseded task is neither seen nor shown, at whatever point it is taken. -/
theorem wakePoller_superseded (backend : Backend σ) (store : Option SessionStore)
    (superseded : tracking.tracker.board.isCurrent poller.generation = false) :
    LooksAs tracking.tracker (tracking.wakePoller backend store index poller).tracker := by
  apply wakePoller_cases (motive := fun after => LooksAs tracking.tracker after.tracker)
  case idle => exact LooksAs.refl _
  case stopped => exact (finish_enters _ _ _).looksAs
  case putOff => exact fun _ _ => ⟨rfl, rfl⟩
  case answered => exact fun _ _ => receive_superseded superseded
  case began =>
    intro moment
    have adopted : LooksAs tracking.tracker
        (tracking.adopt index { poller with nextAt := moment }).tracker := ⟨rfl, rfl⟩
    rw [poll_superseded backend store (tracking.adopt index { poller with nextAt := moment }) index
      { poller with nextAt := moment } superseded]
    exact adopted.trans (finish_enters _ _ _).looksAs
  case polled =>
    rw [poll_superseded _ _ _ _ _ superseded]
    exact (finish_enters _ _ _).looksAs

end Tracking

end OtcDesk
