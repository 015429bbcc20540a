import OtcDesk.Proofs.Tracker.Calls

namespace OtcDesk

open Tracker

/-- Something that happens to a tracker. -/
inductive Happening (σ : Type) where
  | start (run : String)
  | track (result : OrchestrationResult)
  | cancel
  /-- A polling task has its turn, whatever the backend answers and the store holds then. -/
  | turn (index : Nat) (backend : Backend σ) (store : Option SessionStore)
  /-- A polling task never learns that it was asked to stop. -/
  | lapse (index : Nat)
  /-- Time, the pace of the fetches, the listener and the state of the backend change. -/
  | drift (agenda : Agenda) (pacing : Pacing) (listener : Option Listener) (backend : σ)

namespace Happening

variable {σ : Type}

/-- What an activation is to track: a run, or nothing when the trade is not to be tracked. -/
def activation? : Happening σ → Option (Option String)
  | .start run => some (some run)
  | .track result =>
    some (if result.shouldTrackProof then some result.workflowRunId else none)
  | _ => none

/-- The happening is a call from outside. -/
def isCall : Happening σ → Bool
  | .start _ | .track _ | .cancel => true
  | _ => false

end Happening

namespace Tracking

variable {σ : Type}

/-- The tracking after something has happened. -/
def happen (tracking : Tracking σ) : Happening σ → Tracking σ
  | .start run => tracking.onTracker (·.start run)
  | .track result => tracking.onTracker fun tracker => (tracker.track result).2
  | .cancel => tracking.onTracker (·.cancel)
  | .turn index backend store => tracking.wake backend store (.poller index)
  | .lapse index =>
    tracking.onTracker (·.modifyPoller index fun poller => { poller with cancelled := false })
  | .drift agenda pacing listener backend =>
    { tracking.onAgenda fun _ => agenda with pacing, listener, backend }

/-- The tracking after some happenings, one after another. -/
def after (tracking : Tracking σ) (happenings : List (Happening σ)) : Tracking σ :=
  happenings.foldl happen tracking

/-- A tracker that nothing has happened to. -/
def fresh (interval : Rat) (pacing : Pacing) (backend : σ) : Tracking σ :=
  { tracker := { interval }, pacing, backend }

@[simp] theorem after_cons (tracking : Tracking σ) (first : Happening σ)
    (later : List (Happening σ)) :
    tracking.after (first :: later) = (tracking.happen first).after later := rfl

theorem after_append (tracking : Tracking σ) (earlier later : List (Happening σ)) :
    tracking.after (earlier ++ later) = (tracking.after earlier).after later := by
  simp [after]

theorem wake_poller (backend : Backend σ) (store : Option SessionStore) {tracking : Tracking σ}
    {index : Nat} {poller : Poller} (present : tracking.tracker.pollers[index]? = some poller) :
    tracking.wake backend store (.poller index) =
      tracking.wakePoller backend store index poller := by
  simp [wake, present]

/-- There is no turn of a task that was never started. -/
theorem wake_absent (backend : Backend σ) (store : Option SessionStore) {tracking : Tracking σ}
    {index : Nat} (absent : tracking.tracker.pollers[index]? = none) :
    tracking.wake backend store (.poller index) = tracking := by
  simp [wake, absent]

theorem wake_frame (backend : Backend σ) (store : Option SessionStore) (tracking : Tracking σ)
    (index : Nat) (quiet : tracking.tracker.orders = []) :
    TurnFrame index tracking.tracker (tracking.wake backend store (.poller index)).tracker := by
  cases present : tracking.tracker.pollers[index]? with
  | none =>
      rw [wake_absent backend store present]
      exact TurnFrame.refl _ _
  | some poller =>
      rw [wake_poller backend store present]
      exact wakePoller_frame backend store quiet present

/-- A happening that is no call is within the frame of some task. -/
theorem happen_frame (tracking : Tracking σ) {happening : Happening σ}
    (noCall : happening.isCall = false) (quiet : tracking.tracker.orders = []) :
    ∃ index, TurnFrame index tracking.tracker (tracking.happen happening).tracker := by
  cases happening with
  | start run => cases noCall
  | track result => cases noCall
  | cancel => cases noCall
  | turn index backend store => exact ⟨index, wake_frame backend store tracking index quiet⟩
  | lapse index => exact ⟨index, modifyPoller_frame _ _ _ fun _ _ => ⟨rfl, rfl⟩⟩
  | drift agenda pacing listener backend => exact ⟨0, rfl, rfl, fun _ _ => rfl, rfl⟩

/-- The calls are the activations and the cancellation. -/
theorem happen_activation (tracking : Tracking σ) {happening : Happening σ}
    {target : Option String} (activates : happening.activation? = some target)
    (quiet : tracking.tracker.orders = []) :
    (tracking.happen happening).tracker = tracking.tracker.activate target := by
  cases happening with
  | start run =>
      obtain rfl := Option.some.inj activates
      exact start_eq_activate run quiet
  | track result =>
      obtain rfl := Option.some.inj activates
      exact track_eq_activate result quiet
  | cancel => cases activates
  | turn index backend store => cases activates
  | lapse index => cases activates
  | drift agenda pacing listener backend => cases activates

/-- An activation changes neither the pace nor the backend. -/
theorem activation_keeps (tracking : Tracking σ) {activation : Happening σ}
    {target : Option String} (activates : activation.activation? = some target) :
    (tracking.happen activation).pacing = tracking.pacing ∧
      (tracking.happen activation).backend = tracking.backend := by
  cases activation with
  | start run => exact ⟨rfl, rfl⟩
  | track result => exact ⟨rfl, rfl⟩
  | cancel => cases activates
  | turn index backend store => cases activates
  | lapse index => cases activates
  | drift agenda pacing listener backend => cases activates

/-- The activation of a run starts a task for it. -/
theorem launched_present (tracking : Tracking σ) {activation : Happening σ} {run : String}
    (activates : activation.activation? = some (some run)) (quiet : tracking.tracker.orders = []) :
    (tracking.happen activation).tracker.pollers[tracking.tracker.pollers.length]? =
      some { run, generation := tracking.tracker.board.generation + 1 } := by
  rw [happen_activation tracking activates quiet, activate_pollers, ← cancel_length]
  simp

/-- The task of an activation is called as soon as whatever was tracked is cancelled. -/
theorem launched_agenda (tracking : Tracking σ) {activation : Happening σ} {run : String}
    (activates : activation.activation? = some (some run)) (quiet : tracking.tracker.orders = []) :
    (tracking.happen activation).tracker.agenda =
      tracking.tracker.cancel.agenda.call (.poller tracking.tracker.pollers.length) := by
  rw [happen_activation tracking activates quiet, ← cancel_length]
  rfl

/-- A happening is an activation, the cancellation, or no call. -/
theorem happening_cases {motive : Happening σ → Prop} (happening : Happening σ)
    (activation : ∀ target, happening.activation? = some target → motive happening)
    (cancel : motive .cancel) (noCall : happening.isCall = false → motive happening) :
    motive happening := by
  cases happening with
  | start run => exact activation _ rfl
  | track result => exact activation _ rfl
  | cancel => exact cancel
  | turn index backend store => exact noCall rfl
  | lapse index => exact noCall rfl
  | drift agenda pacing listener backend => exact noCall rfl

/-- The tracker stays orderly, the tasks stay what they are, and generations only grow. -/
structure Onward (before after : Tracker) : Prop where
  orderly : after.Orderly
  generations : before.generations <+: after.generations
  generation : before.board.generation ≤ after.board.generation

theorem happen_onward (tracking : Tracking σ) (happening : Happening σ)
    (orderly : tracking.tracker.Orderly) :
    Onward tracking.tracker (tracking.happen happening).tracker := by
  apply happening_cases happening (motive := fun happening =>
    Onward tracking.tracker (tracking.happen happening).tracker)
  case activation =>
    intro target activates
    rw [happen_activation tracking activates orderly.quiet]
    refine ⟨orderly.activate target, ?_, ?_⟩
    · rw [activate_generations]
      exact List.prefix_append _ _
    · rw [activate_board]
      exact Nat.le_succ _
  case cancel =>
    refine ⟨orderly.cancel, ?_, ?_⟩
    · exact ⟨[], (List.append_nil _).trans (cancel_generations tracking.tracker).symm⟩
    · rw [happen, onTracker, cancel_board]
      exact Nat.le_succ _
  case noCall =>
    intro noCall
    obtain ⟨index, frame⟩ := happen_frame tracking noCall orderly.quiet
    exact ⟨orderly.of_frame frame, ⟨[], (List.append_nil _).trans frame.generations.symm⟩,
      Nat.le_of_eq frame.generation.symm⟩

theorem orderly_onAgenda {tracking : Tracking σ} (orderly : tracking.tracker.Orderly)
    (change : Agenda → Agenda) : (tracking.onAgenda change).tracker.Orderly :=
  ⟨orderly.quiet, orderly.ascending, orderly.begun⟩

theorem after_onward (happenings : List (Happening σ)) :
    ∀ tracking : Tracking σ, tracking.tracker.Orderly →
      Onward tracking.tracker (tracking.after happenings).tracker := by
  induction happenings with
  | nil => exact fun tracking orderly => ⟨orderly, List.prefix_rfl, Nat.le_refl _⟩
  | cons first later ih =>
      intro tracking orderly
      have step := happen_onward tracking first orderly
      have run := ih (tracking.happen first) step.orderly
      exact ⟨run.orderly, step.generations.trans run.generations,
        Nat.le_trans step.generation run.generation⟩

theorem fresh_orderly (interval : Rat) (pacing : Pacing) (backend : σ) :
    (fresh interval pacing backend).tracker.Orderly where
  quiet := rfl
  ascending := List.Pairwise.nil
  begun generation member := by cases member

/-- Whatever has happened, the tracker is orderly. -/
theorem reached_orderly (interval : Rat) (pacing : Pacing) (backend : σ)
    (happenings : List (Happening σ)) :
    ((fresh interval pacing backend).after happenings).tracker.Orderly :=
  (after_onward happenings _ (fresh_orderly interval pacing backend)).orderly

end Tracking

end OtcDesk
