import Mathlib.Data.List.Induction
import Mathlib.Data.Rat.Floor
import Mathlib.Tactic.Linarith
import OtcDesk.Tracker.Basic

namespace OtcDesk.Tracking

/-- The moments at which polls began: each shows first that it is loading. -/
def pollStarts (seen : List (Rat × Sighting)) : List Rat :=
  seen.filterMap fun
    | (moment, .update view) => if view.loading then some moment else none
    | (_, .fetch ..) => none

/-- The moments at which polls ended and showed what came of them. -/
def pollEnds (seen : List (Rat × Sighting)) : List Rat :=
  seen.filterMap fun
    | (moment, .update view) => if view.loading then none else some moment
    | (_, .fetch ..) => none

theorem pollStarts_append (earlier later : List (Rat × Sighting)) :
    pollStarts (earlier ++ later) = pollStarts earlier ++ pollStarts later :=
  List.filterMap_append

theorem pollEnds_append (earlier later : List (Rat × Sighting)) :
    pollEnds (earlier ++ later) = pollEnds earlier ++ pollEnds later :=
  List.filterMap_append

/-- The next poll begins when the one before it has ended, but no earlier than on the grid. -/
def nextStart (origin interval : Rat) (ends : List Rat) : Rat :=
  match ends.getLast? with
  | none => origin
  | some finish => max finish (origin + ends.length * interval)

theorem nextStart_concat (origin interval : Rat) (ends : List Rat) (finish : Rat) :
    nextStart origin interval (ends ++ [finish]) =
      max finish (origin + (ends.length + 1) * interval) := by
  simp [nextStart]

/-- No poll begins before its moment on the grid. -/
theorem le_nextStart (origin interval : Rat) (ends : List Rat) :
    origin + ends.length * interval ≤ nextStart origin interval ends := by
  induction ends using List.reverseRecOn with
  | nil => simp [nextStart]
  | append_singleton earlier finish =>
      rw [nextStart_concat, List.length_append, List.length_singleton]
      push_cast
      exact le_max_right _ _

/-- The beginnings and the ends of polls in their pace, one poll after another. -/
inductive Paced (origin interval : Rat) : List Rat → List Rat → Prop where
  | unbegun : Paced origin interval [] []
  | begins {starts ends : List Rat} (paced : Paced origin interval starts ends)
      (level : starts.length = ends.length) :
      Paced origin interval (starts ++ [nextStart origin interval ends]) ends
  | finishes {starts ends : List Rat} {start finish : Rat}
      (paced : Paced origin interval (starts ++ [start]) ends)
      (level : starts.length = ends.length) (later : start ≤ finish) :
      Paced origin interval (starts ++ [start]) (ends ++ [finish])

namespace Paced

variable {origin interval : Rat} {starts ends : List Rat}

/-- A poll begins in view of the ends before it. -/
theorem start_eq (paced : Paced origin interval starts ends) {k : Nat} {start : Rat}
    (began : starts[k]? = some start) :
    k ≤ ends.length ∧ start = nextStart origin interval (ends.take k) := by
  induction paced generalizing k start with
  | unbegun => cases began
  | @begins starts ends paced level ih =>
      rcases Nat.lt_or_ge k starts.length with earlier | atEnd
      · rw [List.getElem?_append_left earlier] at began
        exact ih began
      · rw [List.getElem?_append_right atEnd, List.getElem?_singleton] at began
        split at began
        · have isLast : k = ends.length := by omega
          obtain rfl := Option.some.inj began
          rw [isLast, List.take_length]
          exact ⟨Nat.le_refl _, rfl⟩
        · cases began
  | finishes paced level later ih =>
      obtain ⟨within, same⟩ := ih began
      rw [List.take_append_of_le_length within, List.length_append]
      exact ⟨Nat.le_add_right_of_le within, same⟩

/-- A poll ends after it has begun. -/
theorem start_le (paced : Paced origin interval starts ends) {k : Nat} {finish : Rat}
    (ended : ends[k]? = some finish) : ∃ start, starts[k]? = some start ∧ start ≤ finish := by
  induction paced generalizing k finish with
  | unbegun => cases ended
  | begins paced level ih =>
      obtain ⟨start, began, before⟩ := ih ended
      have present := (List.getElem?_eq_some_iff.mp began).1
      exact ⟨start, by rw [List.getElem?_append_left present, began], before⟩
  | @finishes starts ends start last paced level later ih =>
      rcases Nat.lt_or_ge k ends.length with earlier | atEnd
      · rw [List.getElem?_append_left earlier] at ended
        exact ih ended
      · rw [List.getElem?_append_right atEnd, List.getElem?_singleton] at ended
        split at ended
        · have isLast : k = starts.length := by omega
          obtain rfl := Option.some.inj ended
          exact ⟨start, by simp [isLast], later⟩
        · cases ended

/-- The first poll begins at the origin. -/
theorem first (paced : Paced origin interval starts ends) {start : Rat}
    (began : starts[0]? = some start) : start = origin := (paced.start_eq began).2

/-- Any other poll begins when the one before it has ended, but no earlier than on the grid. -/
theorem next (paced : Paced origin interval starts ends) {k : Nat} {start : Rat}
    (began : starts[k + 1]? = some start) :
    ∃ finish, ends[k]? = some finish ∧ start = max finish (origin + (k + 1) * interval) := by
  obtain ⟨within, same⟩ := paced.start_eq began
  refine ⟨ends[k], List.getElem?_eq_getElem within, ?_⟩
  rw [same, List.take_succ_eq_append_getElem within, nextStart_concat, List.length_take,
    Nat.min_eq_left (Nat.le_of_lt within)]

/-- No poll begins before its moment on the grid. -/
theorem le_start (paced : Paced origin interval starts ends) {k : Nat} {start : Rat}
    (began : starts[k]? = some start) : origin + k * interval ≤ start := by
  obtain ⟨within, rfl⟩ := paced.start_eq began
  have reached := le_nextStart origin interval (ends.take k)
  rwa [List.length_take, Nat.min_eq_left within] at reached

/-- A poll ends before any later one begins. -/
theorem end_le (paced : Paced origin interval starts ends) {j : Nat} {finish : Rat}
    (ended : ends[j]? = some finish) {k : Nat} (later : j < k) {start : Rat}
    (began : starts[k]? = some start) : finish ≤ start := by
  induction k, later using Nat.le_induction generalizing start with
  | base =>
      obtain ⟨same, isThat, rfl⟩ := paced.next began
      obtain rfl := Option.some.inj (ended.symm.trans isThat)
      exact le_max_left _ _
  | succ k later ih =>
      obtain ⟨between, isThat, rfl⟩ := paced.next began
      obtain ⟨earlier, begun, before⟩ := paced.start_le isThat
      exact (ih begun).trans (before.trans (le_max_left _ _))

/-- Polls that are shorter than the interval keep the next one on the grid. -/
theorem start_of_short (paced : Paced origin interval starts ends) {k : Nat} {start : Rat}
    (began : starts[k]? = some start)
    (short : ∀ j < k, ∀ begun finish, starts[j]? = some begun → ends[j]? = some finish →
      finish - begun < interval) : start = origin + k * interval := by
  induction k generalizing start with
  | zero => simp [paced.first began]
  | succ k ih =>
      obtain ⟨finish, ended, rfl⟩ := paced.next began
      obtain ⟨begun, isThat, -⟩ := paced.start_le ended
      have onGrid := ih isThat fun j earlier => short j (Nat.lt_succ_of_lt earlier)
      have brief := short k (Nat.lt_succ_self k) begun finish isThat ended
      rw [onGrid] at brief
      push_cast
      apply max_eq_right
      linarith

/-- A poll that begins within a time has a moment on the grid in it. -/
theorem index_le (paced : Paced origin interval starts ends) (positive : 0 < interval) {k : Nat}
    {start : Rat} (began : starts[k]? = some start) {time : Rat} (within : start ≤ origin + time) :
    (k : Int) ≤ ⌊time / interval⌋ := by
  have onGrid := paced.le_start began
  rw [Int.le_floor, le_div_iff₀ positive]
  push_cast
  linarith

/-- No more polls begin within a time than there are moments on the grid in it. -/
theorem starts_within (paced : Paced origin interval starts ends) (positive : 0 < interval)
    {time : Rat} (forward : 0 ≤ time) :
    ((starts.filter (· ≤ origin + time)).length : Int) ≤ ⌊time / interval⌋ + 1 := by
  have forwardToo : 0 ≤ time / interval := div_nonneg forward positive.le
  obtain ⟨most, same⟩ := Int.eq_ofNat_of_zero_le (Int.floor_nonneg.mpr forwardToo)
  have late : (starts.drop (most + 1)).filter (· ≤ origin + time) = [] := by
    rw [List.filter_eq_nil_iff]
    intro start member within
    obtain ⟨k, began⟩ := List.mem_iff_getElem?.mp member
    rw [List.getElem?_drop] at began
    have inTime := paced.index_le positive began (of_decide_eq_true within)
    omega
  have early := List.length_filter_le (· ≤ origin + time) (starts.take (most + 1))
  have few := List.length_take_le (most + 1) starts
  rw [← List.take_append_drop (most + 1) starts, List.filter_append, late, List.append_nil]
  omega

end Paced

end OtcDesk.Tracking
