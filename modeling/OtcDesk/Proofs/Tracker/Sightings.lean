import Mathlib.Data.List.Induction
import OtcDesk.Proofs.Tracker.Agenda
import OtcDesk.Proofs.Tracker.Course

namespace OtcDesk

/-- The fetch that is seen to begin. -/
def Sighting.fetch? : Sighting → Option (String × Option String)
  | .fetch run token => some (run, token)
  | .update _ => none

/-- The view that is seen. -/
def Sighting.view? : Sighting → Option View
  | .update view => some view
  | .fetch .. => none

namespace Tracker

/-- All that was seen of a tracker, whenever that was. -/
def seen (tracker : Tracker) : List Sighting := tracker.sightings.map (·.2)

theorem fetches_eq (tracker : Tracker) :
    tracker.fetches = tracker.seen.filterMap Sighting.fetch? := by
  rw [fetches, seen, List.filterMap_map]
  congr 1
  funext sighting
  obtain ⟨_, view | ⟨run, token⟩⟩ := sighting
  · rfl
  · rfl

theorem updates_eq (tracker : Tracker) :
    tracker.updates = tracker.seen.filterMap Sighting.view? := by
  rw [updates, seen, List.filterMap_map]
  congr 1
  funext sighting
  obtain ⟨_, view | ⟨run, token⟩⟩ := sighting
  · rfl
  · rfl

end Tracker

namespace Tracking

open Tracker

variable {σ : Type}

/-- What is seen of a deed upon a view. -/
def Deed.seen (run : String) (view : View) : Deed → List Sighting
  | .asks token => [.update view.whileLoading, .fetch run token]
  | .balks _ => [.update view.whileLoading]
  | .takes _ answer =>
    match Outcome.ofAnswer answer with
    | .ok outcome => [.update (view.after outcome)]
    | .error _ => []

/-- The view after a deed. -/
def Deed.viewAfter (view : View) : Deed → View
  | .asks _ | .balks _ => view.whileLoading
  | .takes _ answer => view.follow answer

/-- What is seen of some deeds, one after another. -/
def seenOf (run : String) : View → List Deed → List Sighting
  | _, [] => []
  | view, first :: later => first.seen run view ++ seenOf run (first.viewAfter view) later

theorem seenOf_append (run : String) (earlier later : List Deed) :
    ∀ view : View, seenOf run view (earlier ++ later) =
      seenOf run view earlier ++ seenOf run (earlier.foldl Deed.viewAfter view) later := by
  induction earlier with
  | nil => exact fun _ => rfl
  | cons first rest ih =>
      intro view
      rw [List.cons_append, seenOf, seenOf, ih, List.append_assoc, List.foldl_cons]

/-- The fetches among what is seen are those that the task has begun. -/
theorem fetchesOf_eq (run : String) (deeds : List Deed) :
    ∀ view : View, (seenOf run view deeds).filterMap Sighting.fetch? = fetchesOf run deeds := by
  induction deeds with
  | nil => exact fun _ => rfl
  | cons first later ih =>
      intro view
      have seenFirst : (first.seen run view).filterMap Sighting.fetch? = fetchesOf run [first] := by
        cases first with
        | asks token => rfl
        | balks fault => rfl
        | takes token answer =>
            rw [Deed.seen]
            split
            · rfl
            · rfl
      rw [seenOf, List.filterMap_append, ih, seenFirst, ← fetchesOf_append, List.singleton_append]

/-- An answer that is survived leaves no trace of the loading before it. -/
theorem follow_whileLoading (view : View) {answer : Except Failure ProofJobsByRun}
    {outcome : Outcome} (survived : Outcome.ofAnswer answer = .ok outcome) :
    view.whileLoading.follow answer = view.follow answer := by
  rw [View.follow_ok _ survived, View.follow_ok _ survived, View.after_whileLoading]

/-- Exchanges that are survived lead to the view that follows from their answers. -/
theorem foldl_deedsOf (run : String) {exchanges : List Exchange}
    (survived : ∀ exchange ∈ exchanges, ∃ outcome, Outcome.ofAnswer exchange.answer = .ok outcome) :
    (deedsOf exchanges).foldl Deed.viewAfter (.starting run) = viewAfter run exchanges := by
  induction exchanges using List.reverseRecOn with
  | nil => rfl
  | append_singleton earlier last ih =>
      obtain ⟨outcome, read⟩ := survived last (List.mem_append_right _ List.mem_cons_self)
      rw [deedsOf_concat, viewAfter_concat, List.foldl_append,
        ih fun exchange member => survived exchange (List.mem_append_left _ member)]
      exact follow_whileLoading _ read

/-- The view at any point of its course follows from the deeds of a task. -/
theorem Course.view_eq {run : String} {deeds : List Deed} {exchanges : List Exchange} {view : View}
    {phase : PollerPhase} (course : Course run deeds exchanges view phase) :
    view = deeds.foldl Deed.viewAfter (.starting run) := by
  have survived : ∀ {exchanges : List Exchange}, (∀ exchange ∈ exchanges, exchange.GoesOn) →
      ∀ exchange ∈ exchanges, ∃ outcome, Outcome.ofAnswer exchange.answer = .ok outcome :=
    fun goOn exchange member => (goOn exchange member).imp fun _ => And.left
  cases course with
  | unbegun => rfl
  | waiting exchanges goOn token onTheWay due =>
      rw [List.foldl_append, foldl_deedsOf run (survived goOn)]
      rfl
  | resting exchanges goOn => rw [foldl_deedsOf run (survived goOn)]
  | finished earlier last goOn final =>
      obtain ⟨outcome, read, _⟩ := final
      rw [deedsOf_concat, viewAfter_concat, List.foldl_append, foldl_deedsOf run (survived goOn)]
      exact (follow_whileLoading _ read).symm
  | balked exchanges goOn fault =>
      rw [List.foldl_append, foldl_deedsOf run (survived goOn)]
      rfl
  | broken earlier last failure goOn fatal =>
      rw [deedsOf_concat, viewAfter_concat, List.foldl_append, foldl_deedsOf run (survived goOn)]
      have same := View.follow_error (viewAfter run earlier) fatal
      have sameLoading := View.follow_error (viewAfter run earlier).whileLoading fatal
      rw [same]
      exact sameLoading.symm

/-- These deeds are what is seen of a tracker since. -/
structure Sees (run : String) (before after : Tracker) (deeds : List Deed) : Prop where
  sightings : after.sightings = before.sightings ++
    (seenOf run before.board.view deeds).map (before.agenda.now, ·)
  view : after.board.view = deeds.foldl Deed.viewAfter before.board.view

/-- Apart from the moments, too. -/
theorem Sees.seen {run : String} {before after : Tracker} {deeds : List Deed}
    (sees : Sees run before after deeds) :
    after.seen = before.seen ++ seenOf run before.board.view deeds := by
  rw [Tracker.seen, sees.sightings, List.map_append, List.map_map]
  simp [Tracker.seen, Function.comp_def]

theorem Sees.of_looksAs {before after : Tracker} (looks : LooksAs before after) (run : String) :
    Sees run before after [] where
  sightings := by
    rw [looks.sightings]
    exact (List.append_nil _).symm
  view := by
    rw [looks.board]
    rfl

/-- Deeds of one moment are seen one after another. -/
theorem Sees.trans {run : String} {first second third : Tracker} {earlier later : List Deed}
    (sees : Sees run first second earlier) (then_ : Sees run second third later)
    (moment : second.agenda.now = first.agenda.now) : Sees run first third (earlier ++ later) where
  sightings := by
    rw [then_.sightings, sees.sightings, sees.view, moment, seenOf_append, List.map_append,
      List.append_assoc]
  view := by
    rw [then_.view, sees.view, List.foldl_append]

variable {tracking : Tracking σ} {index : Nat} {poller : Poller}

/-- A task of the current generation that takes in an answer is seen to. -/
theorem receive_sees (index : Nat) (backend : Backend σ) (token : Option String)
    (onTheWay : Option Failure) (quiet : tracking.tracker.orders = [])
    (current : tracking.tracker.board.isCurrent poller.generation = true) :
    Sees poller.run tracking.tracker
      (tracking.receive backend index poller token onTheWay).tracker
      [.takes token (answerTo backend tracking poller.run token onTheWay)] := by
  cases read : Outcome.ofAnswer (answerTo backend tracking poller.run token onTheWay) with
  | error failure =>
      obtain ⟨answered, same, received⟩ := receive_error read
      have looks := (finish_enters answered index (some failure)).looksAs
      rw [received]
      constructor
      · simp [looks.sightings, same, seenOf, Deed.seen, read]
      · simp [looks.board, same, Deed.viewAfter, View.follow_error _ read]
  | ok outcome =>
      obtain ⟨answered, same, received⟩ := receive_ok read
      have looks := rest_looksAs answered index poller
      rw [report_current _ outcome quiet current] at same
      rw [received]
      constructor
      · simp [looks.sightings, same, seenOf, Deed.seen, read, see]
      · simp [looks.board, same, Deed.viewAfter, View.follow_ok _ read, see]

/-- What a task does at a turn in which it polls. -/
theorem deedsOfTurn_polls (backend : Backend σ) (store : Option SessionStore)
    (free : poller.phase.isFree = true) (wanted : poller.cancelled = false)
    (current : tracking.tracker.board.isCurrent poller.generation = true) :
    deedsOfTurn backend store tracking poller =
      deedsOfPoll backend store tracking poller.run := by
  cases phase : poller.phase with
  | ended failure => simp [PollerPhase.isFree, phase] at free
  | fetching sent onTheWay due => simp [PollerPhase.isFree, phase] at free
  | scheduled => simp [deedsOfTurn, phase, wanted, current]
  | resting => simp [deedsOfTurn, phase, wanted, current]

/-- A fetch is seen to begin, and so is what its answer brings if that is there at once. -/
theorem AboutToFetch.sees {begun : Tracking σ} {asking : Poller}
    (about : AboutToFetch tracking begun index poller asking)
    (current : tracking.tracker.board.isCurrent poller.generation = true) (backend : Backend σ)
    (token : Option String) :
    Sees poller.run tracking.tracker (begun.fetch backend index asking token).tracker
      (if tracking.pacing.next.1 ≤ 0 then
        [.asks token, .takes token (answerTo backend tracking poller.run token
          tracking.pacing.next.2.1)]
      else [.asks token]) := by
  obtain ⟨asked, seen, sameBackend, fetched⟩ := fetch_eq backend begun index asking token
  have asks : Sees poller.run tracking.tracker asked.tracker [.asks token] := by
    rw [seen, about.run]
    constructor
    · simp [see, about.sightings, about.agenda, seenOf, Deed.seen]
    · simp [see, about.board, Deed.viewAfter]
  have moment : asked.tracker.agenda.now = tracking.tracker.agenda.now := by
    rw [seen, see, about.agenda]
  rw [fetched, about.pacing]
  split
  · have quiet : asked.tracker.orders = [] := by
      rw [seen]
      exact about.quiet
    have currentThen : asked.tracker.board.isCurrent asking.generation = true := by
      rw [seen, about.generation, see, about.board]
      exact current
    have takes := receive_sees index backend token tracking.pacing.next.2.1 quiet currentThen
    have sameAnswer : answerTo backend asked poller.run token tracking.pacing.next.2.1 =
        answerTo backend tracking poller.run token tracking.pacing.next.2.1 := by
      simp only [answerTo, sameBackend, about.backend]
    rw [about.run, sameAnswer] at takes
    exact asks.trans takes moment
  · have looks := (suspend_enters asked index (.fetching token tracking.pacing.next.2.1
      (asked.tracker.agenda.now + tracking.pacing.next.1)) tracking.pacing.next.1).looksAs
    exact asks.trans (.of_looksAs looks poller.run) moment

/-- All that is seen of a task at its turn are its deeds. -/
theorem wakePoller_sees (backend : Backend σ) (store : Option SessionStore)
    (quiet : tracking.tracker.orders = [])
    (current : tracking.tracker.board.isCurrent poller.generation = true)
    (present : tracking.tracker.pollers[index]? = some poller) (wanted : poller.cancelled = false) :
    Sees poller.run tracking.tracker (tracking.wakePoller backend store index poller).tracker
      (deedsOfTurn backend store tracking poller) := by
  cases free : poller.phase.isFree with
  | true =>
      obtain ⟨begun, asking, about, polled⟩ :=
        wakePoller_polls backend store quiet present current wanted free
      rw [polled, deedsOfTurn_polls backend store free wanted current, deedsOfPoll]
      cases (loadToken store).value with
      | ok token => exact about.sees current backend token
      | error fault =>
          have looks := (finish_enters begun index (some (.fault fault))).looksAs
          constructor
          · simp [looks.sightings, about.sightings, seenOf, Deed.seen]
          · simp [looks.board, about.board, Deed.viewAfter]
  | false =>
      cases stage : poller.phase with
      | scheduled => simp [PollerPhase.isFree, stage] at free
      | resting => simp [PollerPhase.isFree, stage] at free
      | ended failure =>
          simp only [wakePoller, deedsOfTurn, stage]
          exact .of_looksAs (.refl _) poller.run
      | fetching token onTheWay due =>
          simp only [wakePoller, deedsOfTurn, stage, wanted, Bool.false_and, Bool.false_eq_true,
            if_false]
          exact receive_sees index backend token onTheWay quiet current

end Tracking

end OtcDesk
