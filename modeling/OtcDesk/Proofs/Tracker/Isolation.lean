import OtcDesk.Proofs.Tracker.Pursuit

namespace OtcDesk.Tracking

open Tracker

variable {σ : Type} {tracking : Tracking σ}

/-- Every task is superseded. -/
def Dormant (tracking : Tracking σ) : Prop :=
  ∀ generation ∈ tracking.tracker.generations, generation ≠ tracking.tracker.board.generation

/-- The view and all that was seen are the same. -/
def ShowsAs (before after : Tracking σ) : Prop :=
  after.tracker.board.view = before.tracker.board.view ∧
    after.tracker.sightings = before.tracker.sightings

theorem ShowsAs.refl (tracking : Tracking σ) : ShowsAs tracking tracking := ⟨rfl, rfl⟩

theorem ShowsAs.trans {first second third : Tracking σ} (earlier : ShowsAs first second)
    (later : ShowsAs second third) : ShowsAs first third :=
  ⟨later.1.trans earlier.1, later.2.trans earlier.2⟩

/-- Cancelling leaves every task superseded. -/
theorem dormant_cancel (orderly : tracking.tracker.Orderly) :
    (tracking.happen .cancel).Dormant := by
  intro generation member
  rw [Tracking.happen, onTracker, cancel_generations] at member
  rw [Tracking.happen, onTracker, cancel_board]
  have bound := orderly.begun generation member
  show generation ≠ tracking.tracker.board.generation + 1
  omega

theorem happen_cancel_showsAs (tracking : Tracking σ) :
    ShowsAs tracking (tracking.happen .cancel) := by
  refine ⟨?_, cancel_sightings tracking.tracker⟩
  rw [Tracking.happen, onTracker, cancel_board]
  rfl

/-- The activation of nothing leaves every task superseded. -/
theorem dormant_activate {happening : Happening σ} (activates : happening.activation? = some none)
    (orderly : tracking.tracker.Orderly) : (tracking.happen happening).Dormant := by
  intro generation member
  rw [happen_activation tracking activates orderly.quiet, activate_generations] at member
  rw [happen_activation tracking activates orderly.quiet, activate_board]
  rcases List.mem_append.mp member with earlier | spawned
  · have bound := orderly.begun generation earlier
    show generation ≠ tracking.tracker.board.generation + 1
    omega
  · cases spawned

/-- When all tasks are superseded, only an activation shows anything. -/
theorem Dormant.happen {happening : Happening σ} (dormant : tracking.Dormant)
    (orderly : tracking.tracker.Orderly) (passive : happening.activation? = none) :
    (tracking.happen happening).Dormant ∧ ShowsAs tracking (tracking.happen happening) := by
  cases happening with
  | start run => cases passive
  | track result => cases passive
  | cancel => exact ⟨dormant_cancel orderly, happen_cancel_showsAs tracking⟩
  | turn index backend store =>
      have frame := wake_frame backend store tracking index orderly.quiet
      have looks : LooksAs tracking.tracker
          (tracking.wake backend store (.poller index)).tracker := by
        cases present : tracking.tracker.pollers[index]? with
        | none =>
            rw [wake_absent backend store present]
            exact LooksAs.refl _
        | some poller =>
            have member : poller.generation ∈ tracking.tracker.generations :=
              List.mem_map_of_mem (List.mem_of_getElem? present)
            exact wake_superseded backend store present (dormant _ member)
      refine ⟨?_, congrArg Board.view looks.board, looks.sightings⟩
      intro generation member
      rw [Tracking.happen, frame.generations] at member
      rw [Tracking.happen, looks.board]
      exact dormant generation member
  | lapse index =>
      have frame := modifyPoller_frame tracking.tracker index
        (fun poller => { poller with cancelled := false }) fun _ _ => ⟨rfl, rfl⟩
      refine ⟨?_, rfl, rfl⟩
      intro generation member
      rw [Tracking.happen, onTracker, frame.generations] at member
      exact dormant generation member
  | drift agenda pacing listener backend => exact ⟨dormant, rfl, rfl⟩

/-- When all tasks are superseded, all stays as it is until the next activation. -/
theorem Dormant.after (happenings : List (Happening σ)) :
    ∀ {tracking : Tracking σ}, tracking.Dormant → tracking.tracker.Orderly →
      (∀ happening ∈ happenings, happening.activation? = none) →
      ShowsAs tracking (tracking.after happenings) := by
  induction happenings with
  | nil => exact fun _ _ _ => ShowsAs.refl _
  | cons first later ih =>
      intro tracking dormant orderly passive
      obtain ⟨still, shows⟩ := dormant.happen orderly (passive first List.mem_cons_self)
      have onward := happen_onward tracking first orderly
      exact shows.trans (ih still onward.orderly fun happening member =>
        passive happening (List.mem_cons_of_mem _ member))

/-- A task may still write, or be seen to fetch, at some turn to come. -/
def MayStillWrite (tracking : Tracking σ) (index : Nat) : Prop :=
  index < tracking.tracker.pollers.length ∧
    ∃ (later : List (Happening σ)) (backend : Backend σ) (store : Option SessionStore),
      ¬ LooksAs (tracking.after later).tracker
        ((tracking.after later).happen (.turn index backend store)).tracker

/-- Only a task of the current generation may still write. -/
theorem MayStillWrite.current {index : Nat} (mayWrite : tracking.MayStillWrite index)
    (orderly : tracking.tracker.Orderly) :
    ∃ poller, tracking.tracker.pollers[index]? = some poller ∧
      poller.generation = tracking.tracker.board.generation := by
  obtain ⟨bound, later, backend, store, writes⟩ := mayWrite
  refine ⟨tracking.tracker.pollers[index], List.getElem?_eq_getElem bound, ?_⟩
  have own : tracking.tracker.generations[index]? =
      some tracking.tracker.pollers[index].generation := by
    simp [generations, bound]
  have member := List.mem_of_getElem? own
  have onward := after_onward later tracking orderly
  obtain ⟨fresh, same⟩ := onward.generations
  have ownThen : (tracking.after later).tracker.generations[index]? =
      some tracking.tracker.pollers[index].generation := by
    have inside : index < tracking.tracker.generations.length := by
      rw [generations, List.length_map]
      exact bound
    rw [← same, List.getElem?_append_left inside, own]
  rw [generations, List.getElem?_map] at ownThen
  obtain ⟨poller, present, kept⟩ := Option.map_eq_some_iff.mp ownThen
  have currentThen : poller.generation = (tracking.after later).tracker.board.generation := by
    apply Decidable.byContradiction
    intro superseded
    exact writes (wake_superseded backend store present superseded)
  have begun := orderly.begun _ member
  have grown := onward.generation
  omega

/-- At most one task may still write. -/
theorem MayStillWrite.unique {first second : Nat} (left : tracking.MayStillWrite first)
    (right : tracking.MayStillWrite second) (orderly : tracking.tracker.Orderly) :
    first = second := by
  obtain ⟨_, leftPresent, leftCurrent⟩ := left.current orderly
  obtain ⟨_, rightPresent, rightCurrent⟩ := right.current orderly
  exact orderly.index_unique leftPresent rightPresent (leftCurrent.trans rightCurrent.symm)

/-- What happens until the first call. -/
def untilCall (happenings : List (Happening σ)) : List (Happening σ) :=
  happenings.takeWhile (!·.isCall)

theorem untilCall_noCall (happenings : List (Happening σ)) :
    ∀ happening ∈ untilCall happenings, happening.isCall = false := by
  intro happening member
  have passed := List.all_eq_true.mp List.all_takeWhile happening member
  simpa using passed

/-- A cancellation freezes what is shown until the next activation. -/
theorem cancel_freezes (later : List (Happening σ)) (orderly : tracking.tracker.Orderly)
    (passive : ∀ happening ∈ later, happening.activation? = none) :
    ShowsAs tracking ((tracking.happen .cancel).after later) :=
  (happen_cancel_showsAs tracking).trans
    ((dormant_cancel orderly).after later (happen_onward tracking .cancel orderly).orderly passive)

/-- Without a further activation, nothing is shown from the first call on. -/
theorem showsAs_untilCall (happenings : List (Happening σ)) :
    ∀ tracking : Tracking σ, tracking.tracker.Orderly →
      (∀ happening ∈ happenings, happening.activation? = none) →
      ShowsAs (tracking.after (untilCall happenings)) (tracking.after happenings) := by
  induction happenings with
  | nil => exact fun tracking _ _ => ShowsAs.refl tracking
  | cons first later ih =>
      intro tracking orderly passive
      have passiveLater : ∀ happening ∈ later, happening.activation? = none :=
        fun happening member => passive happening (List.mem_cons_of_mem _ member)
      refine happening_cases (motive := fun first => first.activation? = none →
        ShowsAs (tracking.after (untilCall (first :: later))) (tracking.after (first :: later)))
        first ?activation ?cancel ?noCall (passive first List.mem_cons_self)
      case activation =>
        intro target activates inactive
        rw [inactive] at activates
        cases activates
      case cancel =>
        intro _
        exact cancel_freezes later orderly passiveLater
      case noCall =>
        intro noCall _
        have onward := happen_onward tracking first orderly
        rw [untilCall, List.takeWhile_cons, noCall]
        exact ih (tracking.happen first) onward.orderly passiveLater

/-- What is shown of a run until the next call follows from the answers to its own task. -/
theorem pursuit_shows {happening : Happening σ} {run : String}
    (activates : happening.activation? = some (some run)) (orderly : tracking.tracker.Orderly)
    (since : List (Happening σ)) (noCalls : ∀ later ∈ since, later.isCall = false) :
    let deeds := deedsAlong tracking.tracker.pollers.length (tracking.happen happening) since
    let reached := (tracking.happen happening).after since
    reached.tracker.fetches = tracking.tracker.fetches ++ fetchesOf run deeds ∧
      ∃ exchanges, (∃ opening, Opening opening ∧ deeds = deedsOf exchanges ++ opening) ∧
        (reached.tracker.board.view = viewAfter run exchanges ∨
          reached.tracker.board.view = (viewAfter run exchanges).whileLoading) := by
  have launched := pursuitOf_continues activates orderly
  have onward := happen_onward tracking happening orderly
  have continues := launched.after since onward.orderly noCalls
  obtain ⟨poller, present, _, _, _, exchanges, course⟩ := continues.stands
  exact ⟨fetches_pursuitOf continues, exchanges, course.shows⟩

/-- After an activation of nothing, the view is idle until the next one. -/
theorem refused_shows_idle {happening : Happening σ}
    (activates : happening.activation? = some none) (orderly : tracking.tracker.Orderly)
    (since : List (Happening σ)) (passive : ∀ later ∈ since, later.activation? = none) :
    ((tracking.happen happening).after since).tracker.board.view = .idle := by
  have onward := happen_onward tracking happening orderly
  have dormant := dormant_activate activates orderly
  obtain ⟨view, _⟩ := dormant.after since onward.orderly passive
  rw [view, happen_activation tracking activates orderly.quiet, activate_board]
  rfl

/-- What is shown until the next activation follows from the answers up to the next call. -/
theorem latest_run_shows {happening : Happening σ} {run : String}
    (activates : happening.activation? = some (some run)) (orderly : tracking.tracker.Orderly)
    (since : List (Happening σ)) (passive : ∀ later ∈ since, later.activation? = none) :
    let deeds := deedsAlong tracking.tracker.pollers.length (tracking.happen happening)
      (untilCall since)
    let reached := (tracking.happen happening).after since
    reached.tracker.fetches = tracking.tracker.fetches ++ fetchesOf run deeds ∧
      ∃ exchanges, (∃ opening, Opening opening ∧ deeds = deedsOf exchanges ++ opening) ∧
        (reached.tracker.board.view = viewAfter run exchanges ∨
          reached.tracker.board.view = (viewAfter run exchanges).whileLoading) := by
  have onward := happen_onward tracking happening orderly
  obtain ⟨view, sightings⟩ := showsAs_untilCall since (tracking.happen happening) onward.orderly
    passive
  have shows := pursuit_shows activates orderly (untilCall since) (untilCall_noCall since)
  dsimp only at shows ⊢
  rw [fetches, sightings, ← fetches, view]
  exact shows

/-- Whatever has happened, only the latest activation's task writes, and the view is its own. -/
theorem only_latest_activation_shows (interval : Rat) (pacing : Pacing) (backend : σ)
    (happenings : List (Happening σ)) :
    let initial := fresh interval pacing backend
    let reached := initial.after happenings
    (∀ index poller, reached.tracker.pollers[index]? = some poller →
      poller.generation ≠ reached.tracker.board.generation →
        ∀ backend store,
          LooksAs reached.tracker (reached.happen (.turn index backend store)).tracker) ∧
    (∀ first second, reached.MayStillWrite first → reached.MayStillWrite second →
      first = second) ∧
    ((∀ happening ∈ happenings, happening.activation? = none) →
      reached.tracker.board.view = .idle) ∧
    (∀ before since, happenings = before ++ .cancel :: since →
      (∀ later ∈ since, later.activation? = none) → ShowsAs (initial.after before) reached) ∧
    ∀ before activation target since, happenings = before ++ activation :: since →
      activation.activation? = some target → (∀ later ∈ since, later.activation? = none) →
        reached.tracker.board.view.workflowRunId = target ∧
        (target = none → reached.tracker.board.view = .idle) ∧
        ∀ run, target = some run →
          let earlier := initial.after before
          let deeds := deedsAlong earlier.tracker.pollers.length (earlier.happen activation)
            (untilCall since)
          reached.tracker.fetches = earlier.tracker.fetches ++ fetchesOf run deeds ∧
            ∃ exchanges, (∃ opening, Opening opening ∧ deeds = deedsOf exchanges ++ opening) ∧
              (reached.tracker.board.view = viewAfter run exchanges ∨
                reached.tracker.board.view = (viewAfter run exchanges).whileLoading) := by
  dsimp only
  have initially := fresh_orderly interval pacing backend
  refine ⟨?superseded, ?unique, ?unactivated, ?frozen, ?activated⟩
  case superseded =>
    intro index poller present superseded backend store
    exact wake_superseded backend store present superseded
  case unique =>
    intro first second left right
    exact left.unique right (after_onward happenings _ initially).orderly
  case unactivated =>
    intro passive
    have dormant : (fresh interval pacing backend).Dormant := by
      intro generation member
      cases member
    exact (dormant.after happenings initially passive).1
  case frozen =>
    intro before since split passive
    rw [split, after_append]
    exact cancel_freezes since (after_onward before _ initially).orderly passive
  case activated =>
    intro before activation target since split activates passive
    have orderly := (after_onward before _ initially).orderly
    rw [split, after_append, after_cons]
    cases target with
    | none =>
        have idle := refused_shows_idle activates orderly since passive
        refine ⟨?_, fun _ => idle, ?_⟩
        · rw [idle]
          rfl
        · intro run impossible
          cases impossible
    | some run =>
        have shows := latest_run_shows activates orderly since passive
        refine ⟨?_, ?_, ?_⟩
        · obtain ⟨_, exchanges, _, view | view⟩ := shows
          · rw [view, viewAfter_run]
          · rw [view, View.whileLoading, viewAfter_run]
        · intro impossible
          cases impossible
        · intro other same
          obtain rfl := Option.some.inj same
          exact shows

end OtcDesk.Tracking
