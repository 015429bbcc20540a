import OtcDesk.Proofs.Tracker.Sightings

namespace OtcDesk.Tracking

open Tracker

variable {σ : Type}

/-- What the task of a number does at a happening. -/
def deedsAt (index : Nat) (tracking : Tracking σ) : Happening σ → List Deed
  | .turn turned backend store =>
    if turned = index then
      match tracking.tracker.pollers[index]? with
      | some poller => deedsOfTurn backend store tracking poller
      | none => []
    else []
  | _ => []

theorem deedsAt_turn {index : Nat} {tracking : Tracking σ} {poller : Poller}
    (present : tracking.tracker.pollers[index]? = some poller) (backend : Backend σ)
    (store : Option SessionStore) :
    deedsAt index tracking (.turn index backend store) =
      deedsOfTurn backend store tracking poller := by
  simp [deedsAt, present]

/-- What the task of a number does along some happenings. -/
def deedsAlong (index : Nat) : Tracking σ → List (Happening σ) → List Deed
  | _, [] => []
  | tracking, first :: later =>
    deedsAt index tracking first ++ deedsAlong index (tracking.happen first) later

theorem deedsAlong_append (index : Nat) (earlier later : List (Happening σ)) :
    ∀ tracking : Tracking σ, deedsAlong index tracking (earlier ++ later) =
      deedsAlong index tracking earlier ++ deedsAlong index (tracking.after earlier) later := by
  induction earlier with
  | nil => exact fun _ => rfl
  | cons first rest ih =>
      intro tracking
      rw [List.cons_append, deedsAlong, ih, deedsAlong, List.append_assoc]
      rfl

/-- The pursuit of a run by the task of a number and a generation, from what was seen before it. -/
structure Pursuit where
  run : String
  index : Nat
  generation : Nat
  seen : List Sighting

/-- A pursuit goes on: its task is current and on its course, and nothing else was seen. -/
structure Pursuit.Continues (pursuit : Pursuit) (tracking : Tracking σ) (deeds : List Deed) :
    Prop where
  generation : tracking.tracker.board.generation = pursuit.generation
  stands : ∃ poller, tracking.tracker.pollers[pursuit.index]? = some poller ∧
    poller.run = pursuit.run ∧ poller.generation = pursuit.generation ∧
    poller.cancelled = false ∧
    ∃ exchanges, Course pursuit.run deeds exchanges tracking.tracker.board.view poller.phase
  sightings : tracking.tracker.seen = pursuit.seen ++ seenOf pursuit.run (.starting pursuit.run) deeds

variable {pursuit : Pursuit} {tracking : Tracking σ} {deeds : List Deed}

/-- The fetches since are those that the task has begun. -/
theorem Pursuit.Continues.fetches (continues : pursuit.Continues tracking deeds) :
    tracking.tracker.fetches =
      pursuit.seen.filterMap Sighting.fetch? ++ fetchesOf pursuit.run deeds := by
  rw [fetches_eq, continues.sightings, List.filterMap_append, fetchesOf_eq]

/-- The task of a pursuit is not superseded. -/
theorem Pursuit.Continues.isCurrent {poller : Poller}
    (continues : pursuit.Continues tracking deeds)
    (generation : poller.generation = pursuit.generation) :
    tracking.tracker.board.isCurrent poller.generation = true := by
  rw [Board.isCurrent, generation, continues.generation]
  exact beq_self_eq_true _

/-- Nothing that leaves the board, the log and the task as they are ends a pursuit. -/
theorem Pursuit.Continues.of_looksAs {after : Tracking σ}
    (continues : pursuit.Continues tracking deeds) (looks : LooksAs tracking.tracker after.tracker)
    (same : after.tracker.pollers[pursuit.index]? = tracking.tracker.pollers[pursuit.index]?) :
    pursuit.Continues after deeds where
  generation := by
    rw [looks.board]
    exact continues.generation
  stands := by
    rw [looks.board, same]
    exact continues.stands
  sightings := by
    rw [Tracker.seen, looks.sightings]
    exact continues.sightings

/-- Neither does a change of the agenda. -/
theorem Pursuit.Continues.onAgenda (continues : pursuit.Continues tracking deeds)
    (change : Agenda → Agenda) : pursuit.Continues (tracking.onAgenda change) deeds :=
  continues.of_looksAs ⟨rfl, rfl⟩ rfl

/-- The turn of a superseded task leaves the board and all that was seen as they are. -/
theorem wake_superseded (backend : Backend σ) (store : Option SessionStore) {index : Nat}
    {poller : Poller} (present : tracking.tracker.pollers[index]? = some poller)
    (superseded : poller.generation ≠ tracking.tracker.board.generation) :
    LooksAs tracking.tracker (tracking.wake backend store (.poller index)).tracker := by
  rw [wake_poller backend store present]
  exact wakePoller_superseded backend store (beq_eq_false_iff_ne.mpr superseded)

/-- Any task but that of the pursuit is superseded. -/
theorem Pursuit.Continues.superseded {index : Nat} {poller : Poller}
    (continues : pursuit.Continues tracking deeds) (orderly : tracking.tracker.Orderly)
    (present : tracking.tracker.pollers[index]? = some poller) (other : index ≠ pursuit.index) :
    poller.generation ≠ tracking.tracker.board.generation := by
  obtain ⟨own, ownPresent, _, ownGeneration, _⟩ := continues.stands
  intro current
  have shared : poller.generation = own.generation := by
    rw [current, continues.generation, ownGeneration]
  exact other (orderly.index_unique present ownPresent shared)

/-- The turn of any other task is neither seen nor shown. -/
theorem Pursuit.Continues.wake_other_looksAs (backend : Backend σ) (store : Option SessionStore)
    {index : Nat} (continues : pursuit.Continues tracking deeds)
    (orderly : tracking.tracker.Orderly) (other : index ≠ pursuit.index) :
    LooksAs tracking.tracker (tracking.wake backend store (.poller index)).tracker := by
  cases present : tracking.tracker.pollers[index]? with
  | none =>
      rw [wake_absent backend store present]
      exact .refl _
  | some poller =>
      have superseded := continues.superseded orderly present other
      exact wake_superseded backend store present superseded

/-- It leaves a pursuit as it is. -/
theorem Pursuit.Continues.wake_other (backend : Backend σ) (store : Option SessionStore)
    {index : Nat} (continues : pursuit.Continues tracking deeds)
    (orderly : tracking.tracker.Orderly) (other : index ≠ pursuit.index) :
    pursuit.Continues (tracking.wake backend store (.poller index)) deeds := by
  have frame := wake_frame backend store tracking index orderly.quiet
  have same := frame.others pursuit.index other.symm
  exact continues.of_looksAs (continues.wake_other_looksAs backend store orderly other) same

/-- The turn of the task of a pursuit. -/
theorem Pursuit.Continues.wake_own (backend : Backend σ) (store : Option SessionStore)
    (continues : pursuit.Continues tracking deeds) (orderly : tracking.tracker.Orderly) :
    pursuit.Continues (tracking.wake backend store (.poller pursuit.index))
      (deeds ++ deedsAt pursuit.index tracking (.turn pursuit.index backend store)) := by
  obtain ⟨poller, present, run, generation, wanted, exchanges, course⟩ := continues.stands
  rw [deedsAt_turn present, wake_poller backend store present]
  cases ended : poller.hasEnded with
  | true =>
      obtain ⟨failure, isOver⟩ := poller.hasEnded_iff.mp ended
      simp only [wakePoller, deedsOfTurn, isOver, List.append_nil]
      exact continues
  | false =>
      have current := continues.isCurrent generation
      have atWork : ∀ failure, poller.phase ≠ .ended failure := by
        intro failure isOver
        rw [poller.hasEnded_iff.mpr ⟨failure, isOver⟩] at ended
        cases ended
      obtain ⟨next, turn, ⟨moment, standsNext⟩⟩ :=
        wakePoller_live backend store orderly.quiet current present wanted ended
      have sees := wakePoller_sees backend store orderly.quiet current present wanted
      have frame := wakePoller_frame backend store orderly.quiet present
      obtain ⟨later, courseNext⟩ := course.turn atWork turn
      refine ⟨frame.generation.trans continues.generation, ?_, ?_⟩
      · exact ⟨_, standsNext, run, generation, wanted, later, courseNext⟩
      · rw [sees.seen, continues.sightings, run, seenOf_append, ← course.view_eq, List.append_assoc]

/-- Whatever happens without a call, a pursuit continues with what its task did. -/
theorem Pursuit.Continues.happen {happening : Happening σ}
    (continues : pursuit.Continues tracking deeds) (orderly : tracking.tracker.Orderly)
    (noCall : happening.isCall = false) :
    pursuit.Continues (tracking.happen happening)
      (deeds ++ deedsAt pursuit.index tracking happening) := by
  cases happening with
  | start run => cases noCall
  | track result => cases noCall
  | cancel => cases noCall
  | turn index backend store =>
      by_cases own : index = pursuit.index
      · subst own
        exact continues.wake_own backend store orderly
      · rw [deedsAt, if_neg own, List.append_nil]
        exact continues.wake_other backend store orderly own
  | lapse index =>
      show pursuit.Continues (tracking.happen (.lapse index)) (deeds ++ [])
      obtain ⟨poller, present, run, generation, wanted, course⟩ := continues.stands
      have looks : LooksAs tracking.tracker (tracking.happen (.lapse index)).tracker := ⟨rfl, rfl⟩
      rw [List.append_nil]
      apply continues.of_looksAs looks
      by_cases own : index = pursuit.index
      · obtain ⟨_, _, _, _, cancelled⟩ := poller
        dsimp only at wanted
        simp [Tracking.happen, onTracker, modifyPoller, own, present, wanted]
      · simp [Tracking.happen, onTracker, modifyPoller, own]
  | drift agenda pacing listener backend =>
      show pursuit.Continues (tracking.happen (.drift agenda pacing listener backend)) (deeds ++ [])
      rw [List.append_nil]
      exact continues.of_looksAs ⟨rfl, rfl⟩ rfl

/-- A pursuit continues through all that happens without a call. -/
theorem Pursuit.Continues.after (happenings : List (Happening σ)) :
    ∀ {tracking : Tracking σ} {deeds : List Deed}, pursuit.Continues tracking deeds →
      tracking.tracker.Orderly → (∀ happening ∈ happenings, happening.isCall = false) →
      pursuit.Continues (tracking.after happenings)
        (deeds ++ deedsAlong pursuit.index tracking happenings) := by
  induction happenings with
  | nil =>
      intro tracking deeds continues _ _
      rw [deedsAlong, List.append_nil]
      exact continues
  | cons first later ih =>
      intro tracking deeds continues orderly noCalls
      have step := continues.happen orderly (noCalls first List.mem_cons_self)
      have onward := happen_onward tracking first orderly
      have run := ih step onward.orderly fun happening member =>
        noCalls happening (List.mem_cons_of_mem _ member)
      rw [List.append_assoc] at run
      exact run

/-- The pursuit that begins with the activation of a run. -/
def pursuitOf (tracking : Tracking σ) (run : String) : Pursuit where
  run := run
  index := tracking.tracker.pollers.length
  generation := tracking.tracker.board.generation + 1
  seen := tracking.tracker.seen ++ [.update (.starting run)]

/-- The activation of a run begins its pursuit. -/
theorem pursuitOf_continues {happening : Happening σ} {run : String}
    (activates : happening.activation? = some (some run)) (orderly : tracking.tracker.Orderly) :
    (tracking.pursuitOf run).Continues (tracking.happen happening) [] := by
  have activated := happen_activation tracking activates orderly.quiet
  have present := launched_present tracking activates orderly.quiet
  refine ⟨?_, ⟨_, present, rfl, rfl, rfl, [], ?_⟩, ?_⟩
  · rw [activated, activate_board]
    rfl
  · rw [activated, activate_board]
    exact .unbegun
  · rw [activated]
    simp [activate, see, spawn, cancel_sightings, pursuitOf, seenOf, Tracker.seen, openingView]

/-- In the pursuit of an activation, the fetches go on from those before it. -/
theorem fetches_pursuitOf {reached : Tracking σ} {run : String}
    (continues : (tracking.pursuitOf run).Continues reached deeds) :
    reached.tracker.fetches = tracking.tracker.fetches ++ fetchesOf run deeds := by
  rw [continues.fetches, fetches_eq]
  simp [pursuitOf, Sighting.fetch?]

/-- So do the updates from those before it and the opening view. -/
theorem updates_pursuitOf {reached : Tracking σ} {run : String}
    (continues : (tracking.pursuitOf run).Continues reached deeds) :
    reached.tracker.updates = tracking.tracker.updates ++
      .starting run :: (seenOf run (.starting run) deeds).filterMap Sighting.view? := by
  rw [updates_eq, continues.sightings, updates_eq]
  simp [pursuitOf, Sighting.view?]

end OtcDesk.Tracking
