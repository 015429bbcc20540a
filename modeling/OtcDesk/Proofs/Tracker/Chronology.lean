import Mathlib.Data.List.Nodup
import OtcDesk.Tracker.View

namespace OtcDesk

/-- The transitions of an instant, one after another as they stand. -/
def atInstant (instant : Int) (transitions : List Transition) : List Transition :=
  transitions.filter (·.transitionedAt = instant)

/-- No transition stands before one of an earlier instant. -/
def IsChronological (transitions : List Transition) : Prop :=
  transitions.Pairwise fun first second => first.transitionedAt ≤ second.transitionedAt

variable {transitions other : List Transition}

theorem mem_atInstant {instant : Int} {step : Transition} :
    step ∈ atInstant instant transitions ↔
      step ∈ transitions ∧ step.transitionedAt = instant := by
  simp [atInstant]

theorem atInstant_cons (instant : Int) (first : Transition) (later : List Transition) :
    atInstant instant (first :: later) =
      if first.transitionedAt = instant then first :: atInstant instant later
      else atInstant instant later := by
  simp [atInstant, List.filter_cons]

theorem orderTimeline_perm (transitions : List Transition) :
    (orderTimeline transitions).Perm transitions := List.mergeSort_perm ..

theorem noLater_trans (first second third : Transition)
    (before : decide (first.transitionedAt ≤ second.transitionedAt) = true)
    (then_ : decide (second.transitionedAt ≤ third.transitionedAt) = true) :
    decide (first.transitionedAt ≤ third.transitionedAt) = true := by
  rw [decide_eq_true_eq] at before then_ ⊢
  exact Int.le_trans before then_

theorem noLater_total (first second : Transition) :
    (decide (first.transitionedAt ≤ second.transitionedAt) ||
      decide (second.transitionedAt ≤ first.transitionedAt)) = true := by
  rw [Bool.or_eq_true, decide_eq_true_eq, decide_eq_true_eq]
  exact Int.le_total _ _

theorem orderTimeline_isChronological (transitions : List Transition) :
    IsChronological (orderTimeline transitions) := by
  have sorted := List.pairwise_mergeSort noLater_trans noLater_total transitions
  exact sorted.imp of_decide_eq_true

/-- A history in order of time stays as it is. -/
theorem orderTimeline_of_isChronological (ordered : IsChronological transitions) :
    orderTimeline transitions = transitions :=
  List.mergeSort_of_pairwise (ordered.imp decide_eq_true)

/-- What happened at an instant stays in its order of arrival. -/
theorem atInstant_orderTimeline (instant : Int) (transitions : List Transition) :
    atInstant instant (orderTimeline transitions) = atInstant instant transitions := by
  have level : (atInstant instant transitions).Pairwise fun first second =>
      decide (first.transitionedAt ≤ second.transitionedAt) = true := by
    apply List.pairwise_of_forall_mem_list
    intro first isFirst second isSecond
    have same := (mem_atInstant.mp isFirst).2.trans (mem_atInstant.mp isSecond).2.symm
    exact decide_eq_true (Int.le_of_eq same)
  have within : (atInstant instant transitions).Sublist (orderTimeline transitions) :=
    List.sublist_mergeSort noLater_trans noLater_total level List.filter_sublist
  have kept := within.filter (·.transitionedAt = instant)
  rw [atInstant, List.filter_filter] at kept
  simp only [Bool.and_self] at kept
  have count := ((orderTimeline_perm transitions).filter (·.transitionedAt = instant)).length_eq
  exact (kept.eq_of_length count.symm).symm

/-- A history in order of time begins no later than any of its transitions. -/
theorem IsChronological.first_le {first : Transition} {later : List Transition}
    (ordered : IsChronological (first :: later)) {step : Transition}
    (member : step ∈ first :: later) : first.transitionedAt ≤ step.transitionedAt := by
  rcases List.mem_cons.mp member with rfl | isLater
  · exact Int.le_refl _
  · exact List.rel_of_pairwise_cons ordered isLater

/-- Histories with the same transitions at each instant have the same transitions. -/
theorem mem_iff_of_atInstant
    (same : ∀ instant, atInstant instant transitions = atInstant instant other)
    (step : Transition) : step ∈ transitions ↔ step ∈ other := by
  have here : step ∈ atInstant step.transitionedAt transitions ↔
      step ∈ atInstant step.transitionedAt other := by rw [same]
  simpa [mem_atInstant] using here

/-- A history in order of time is determined by what happened at each instant. -/
theorem IsChronological.eq_of_atInstant (ordered : IsChronological transitions)
    (alsoOrdered : IsChronological other)
    (same : ∀ instant, atInstant instant transitions = atInstant instant other) :
    transitions = other := by
  induction transitions generalizing other with
  | nil =>
      have members := mem_iff_of_atInstant same
      symm
      apply List.eq_nil_iff_forall_not_mem.mpr
      exact fun step member => List.not_mem_nil ((members step).mpr member)
  | cons first later ih =>
      have members := mem_iff_of_atInstant same
      cases other with
      | nil => exact absurd ((members first).mp List.mem_cons_self) List.not_mem_nil
      | cons otherFirst otherLater =>
          -- both begin at the earliest instant, and so with its first transition
          have level : first.transitionedAt = otherFirst.transitionedAt := by
            apply Int.le_antisymm
            · exact ordered.first_le ((members otherFirst).mpr List.mem_cons_self)
            · exact alsoOrdered.first_le ((members first).mp List.mem_cons_self)
          have begins := same first.transitionedAt
          rw [atInstant_cons, atInstant_cons, if_pos rfl, if_pos level.symm] at begins
          obtain ⟨rfl, -⟩ := List.cons.inj begins
          have rest : ∀ instant, atInstant instant later = atInstant instant otherLater := by
            intro instant
            have whole := same instant
            rw [atInstant_cons, atInstant_cons] at whole
            split at whole
            · exact (List.cons.inj whole).2
            · exact whole
          have tails := ih (List.Pairwise.of_cons ordered) (List.Pairwise.of_cons alsoOrdered) rest
          rw [tails]

/-- Two orders of arrival lead to one history exactly if they agree on each instant. -/
theorem orderTimeline_eq_iff :
    orderTimeline transitions = orderTimeline other ↔
      ∀ instant, atInstant instant transitions = atInstant instant other := by
  constructor
  · intro same instant
    rw [← atInstant_orderTimeline, same, atInstant_orderTimeline]
  · intro same
    apply (orderTimeline_isChronological _).eq_of_atInstant (orderTimeline_isChronological _)
    intro instant
    rw [atInstant_orderTimeline, atInstant_orderTimeline, same]

/-- Transitions of different instants lead to one history in whatever order they arrive. -/
theorem orderTimeline_eq_of_perm (rearranged : transitions.Perm other)
    (distinct : (transitions.map (·.transitionedAt)).Nodup) :
    orderTimeline transitions = orderTimeline other := by
  have moved := orderTimeline_perm transitions
  have same : (orderTimeline transitions).Perm (orderTimeline other) :=
    (moved.trans rearranged).trans (orderTimeline_perm other).symm
  refine same.eq_of_pairwise ?_ (orderTimeline_isChronological _) (orderTimeline_isChronological _)
  intro first second isFirst isSecond before after
  apply List.inj_on_of_nodup_map distinct (moved.mem_iff.mp isFirst)
  · exact moved.mem_iff.mp (same.mem_iff.mpr isSecond)
  · exact Int.le_antisymm before after

/-- A history is in order of time, and depends on arrival only within one instant. -/
theorem history_independent_of_arrival (transitions : List Transition) :
    (orderTimeline transitions).Perm transitions ∧
    IsChronological (orderTimeline transitions) ∧
    (∀ instant, atInstant instant (orderTimeline transitions) = atInstant instant transitions) ∧
    orderTimeline (orderTimeline transitions) = orderTimeline transitions ∧
    (∀ other, orderTimeline other = orderTimeline transitions ↔
      ∀ instant, atInstant instant other = atInstant instant transitions) ∧
    ((transitions.map (·.transitionedAt)).Nodup → ∀ other, other.Perm transitions →
      orderTimeline other = orderTimeline transitions) := by
  refine ⟨orderTimeline_perm _, orderTimeline_isChronological _,
    fun instant => atInstant_orderTimeline instant _, ?idempotent, fun other => orderTimeline_eq_iff,
    ?distinct⟩
  case idempotent =>
    exact orderTimeline_of_isChronological (orderTimeline_isChronological _)
  case distinct =>
    intro distinct other rearranged
    exact (orderTimeline_eq_of_perm rearranged.symm distinct).symm

/-- The history that starts before 1970 and arrives in a mixed order is put in order of time. -/
theorem mixed_history_in_order :
    let queued : Transition := ⟨none, "QUEUED", -5, none⟩
    let proving : Transition := ⟨some "QUEUED", "PROVING", 20, none⟩
    let published : Transition := ⟨some "PROVING", "PUBLISHED", 40, none⟩
    ([queued, proving, published].map (·.transitionedAt)).Nodup ∧
      [proving, published, queued].Perm [queued, proving, published] ∧
      orderTimeline [proving, published, queued] = [queued, proving, published] := by
  intro queued proving published
  have distinct : ([queued, proving, published].map (·.transitionedAt)).Nodup := by decide
  have rearranged : [proving, published, queued].Perm [queued, proving, published] := by decide
  have ordered : IsChronological [queued, proving, published] := by
    simp [IsChronological, queued, proving, published]
  obtain ⟨-, -, -, -, -, anyOrder⟩ :=
    history_independent_of_arrival [queued, proving, published]
  refine ⟨distinct, rearranged, ?_⟩
  rw [anyOrder distinct _ rearranged, orderTimeline_of_isChronological ordered]

end OtcDesk
