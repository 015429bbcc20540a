import OtcDesk.Proofs.Tracker.Frame

namespace OtcDesk

namespace Tracker

/-- A tracker without standing orders has tasks of ascending generations, none beyond the board. -/
structure Orderly (tracker : Tracker) : Prop where
  quiet : tracker.orders = []
  ascending : tracker.generations.Pairwise (· < ·)
  begun : ∀ generation ∈ tracker.generations, generation ≤ tracker.board.generation

variable {tracker : Tracker}

theorem Orderly.of_frame {index : Nat} {after : Tracker} (orderly : tracker.Orderly)
    (frame : TurnFrame index tracker after) : after.Orderly where
  quiet := frame.orders.trans orderly.quiet
  ascending := by
    rw [frame.generations]
    exact orderly.ascending
  begun := by
    rw [frame.generations, frame.generation]
    exact orderly.begun

/-- A generation belongs to one task only. -/
theorem Orderly.index_unique {first second : Nat} {left right : Poller}
    (orderly : tracker.Orderly) (leftPresent : tracker.pollers[first]? = some left)
    (rightPresent : tracker.pollers[second]? = some right)
    (same : left.generation = right.generation) : first = second := by
  have atFirst : tracker.generations[first]? = some left.generation := by
    simp [generations, leftPresent]
  have atSecond : tracker.generations[second]? = some right.generation := by
    simp [generations, rightPresent]
  obtain ⟨firstBound, firstValue⟩ := List.getElem?_eq_some_iff.mp atFirst
  obtain ⟨secondBound, secondValue⟩ := List.getElem?_eq_some_iff.mp atSecond
  have ascending := List.pairwise_iff_getElem.mp orderly.ascending
  rcases Nat.lt_trichotomy first second with less | equal | greater
  · have := ascending first second firstBound secondBound less
    omega
  · exact equal
  · have := ascending second first secondBound firstBound greater
    omega

theorem cancel_board (tracker : Tracker) : tracker.cancel.board = tracker.board.supersede := by
  unfold cancel
  dsimp only
  split
  · rfl
  · rfl

theorem cancel_sightings (tracker : Tracker) : tracker.cancel.sightings = tracker.sightings := by
  unfold cancel
  dsimp only
  split
  · rfl
  · rfl

theorem cancel_orders (tracker : Tracker) : tracker.cancel.orders = tracker.orders := by
  unfold cancel
  dsimp only
  split
  · rfl
  · rfl

theorem cancel_interval (tracker : Tracker) : tracker.cancel.interval = tracker.interval := by
  unfold cancel
  dsimp only
  split
  · rfl
  · rfl

/-- Cancelling asks at most one task to stop; the tasks stay what they are. -/
theorem cancel_generations (tracker : Tracker) :
    tracker.cancel.generations = tracker.generations := by
  unfold cancel
  dsimp only
  split
  · rename_i index _
    have stopped := modifyPoller_frame tracker index
      (fun poller => { poller with cancelled := true }) fun _ _ => ⟨rfl, rfl⟩
    exact stopped.generations
  · rfl

theorem cancel_length (tracker : Tracker) :
    tracker.cancel.pollers.length = tracker.pollers.length := by
  have same := congrArg List.length (cancel_generations tracker)
  simpa only [generations, List.length_map] using same

theorem Orderly.cancel (orderly : tracker.Orderly) : tracker.cancel.Orderly where
  quiet := (cancel_orders tracker).trans orderly.quiet
  ascending := by
    rw [cancel_generations]
    exact orderly.ascending
  begun := by
    intro generation member
    rw [cancel_generations] at member
    rw [cancel_board]
    exact Nat.le_succ_of_le (orderly.begun generation member)

/-- The view with which an activation begins. -/
def openingView : Option String → View
  | some run => .starting run
  | none => .idle

/-- An activation supersedes all before, shows the opening view, and starts a task for a run. -/
def activate (tracker : Tracker) (target : Option String) : Tracker :=
  let cleared := tracker.cancel
  let shown := { cleared with board := { cleared.board with view := openingView target } }.see
    (.update (openingView target))
  match target with
  | some run => shown.spawn run cleared.board.generation
  | none => shown

theorem start_eq_activate (run : String) (quiet : tracker.orders = []) :
    tracker.start run = tracker.activate (some run) := by
  have quietThen := (cancel_orders tracker).trans quiet
  have current : tracker.cancel.board.isCurrent tracker.cancel.board.generation = true :=
    beq_self_eq_true _
  simp [start, activate, openingView, publish_current _ _ quietThen current]

theorem track_eq_activate (result : OrchestrationResult) (quiet : tracker.orders = []) :
    (tracker.track result).2 =
      tracker.activate (if result.shouldTrackProof then some result.workflowRunId else none) := by
  unfold track
  split
  · exact start_eq_activate _ quiet
  · have quietThen := (cancel_orders tracker).trans quiet
    exact publish_current tracker.cancel _ quietThen (beq_self_eq_true _)

theorem activate_board (tracker : Tracker) (target : Option String) :
    (tracker.activate target).board = ⟨openingView target, tracker.board.generation + 1⟩ := by
  cases target with
  | none => simp [activate, see, cancel_board, Board.supersede]
  | some run => simp [activate, see, spawn, cancel_board, Board.supersede]

theorem activate_pollers (tracker : Tracker) (target : Option String) :
    (tracker.activate target).pollers = tracker.cancel.pollers ++
      target.toList.map fun run => { run, generation := tracker.board.generation + 1 } := by
  cases target with
  | none => simp [activate, see]
  | some run => simp [activate, see, spawn, cancel_board, Board.supersede]

theorem activate_generations (tracker : Tracker) (target : Option String) :
    (tracker.activate target).generations =
      tracker.generations ++ target.toList.map fun _ => tracker.board.generation + 1 := by
  rw [generations, activate_pollers, List.map_append, List.map_map, ← generations, cancel_generations]
  rfl

theorem activate_orders (tracker : Tracker) (target : Option String) :
    (tracker.activate target).orders = tracker.orders := by
  cases target with
  | none => simp [activate, see, cancel_orders]
  | some run => simp [activate, see, spawn, cancel_orders]

theorem Orderly.activate (orderly : tracker.Orderly) (target : Option String) :
    (tracker.activate target).Orderly where
  quiet := (activate_orders tracker target).trans orderly.quiet
  ascending := by
    rw [activate_generations, List.pairwise_append]
    refine ⟨orderly.ascending, ?_, ?_⟩
    · cases target with
      | none => exact List.Pairwise.nil
      | some run => exact List.pairwise_singleton _ _
    · intro earlier member latest spawned
      have bound := orderly.begun earlier member
      obtain ⟨_, _, rfl⟩ := List.mem_map.mp spawned
      omega
  begun := by
    intro generation member
    rw [activate_generations] at member
    rw [activate_board]
    rcases List.mem_append.mp member with earlier | spawned
    · exact Nat.le_succ_of_le (orderly.begun generation earlier)
    · obtain ⟨_, _, rfl⟩ := List.mem_map.mp spawned
      exact Nat.le_refl _

end Tracker

end OtcDesk
