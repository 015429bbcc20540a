import Mathlib.Algebra.Group.Int.Defs
import Mathlib.Algebra.Group.Nat.Defs
import Mathlib.Data.List.Induction
import OtcDesk.Text.Integer

namespace OtcDesk.Text

/-- An integer can be converted exactly if it lies below the power of ten at the limit. -/
theorem isConvertible_iff {value : Int} :
    isConvertible value = true ↔ value.natAbs < 10 ^ digitLimit := by
  rw [isConvertible, decide_eq_true_iff,
    Nat.length_toDigits_le_iff (by decide) (by unfold digitLimit; decide)]

/-- The power of ten at the limit has one digit too many. -/
theorem not_isConvertible_pow : ¬ isConvertible (10 ^ digitLimit) = true := by
  simp [isConvertible_iff, Int.natAbs_pow]

theorem digitValue?_lt {c : Char} {value : Nat} (known : digitValue? c = some value) :
    value < 10 := by
  obtain ⟨first, found, rfl⟩ := Option.map_eq_some_iff.mp known
  have within := List.find?_some found
  simp only [Bool.and_eq_true, decide_eq_true_eq] at within
  omega

/-- The digits of a run are decimal. -/
theorem digitRun?_lt {text : List Char} {digits : List Nat} (read : digitRun? text = some digits) :
    ∀ digit ∈ digits, digit < 10 := by
  induction text using digitRun?.induct generalizing digits with
  | case1 => cases read
  | case2 c =>
      obtain ⟨value, known, rfl⟩ := Option.map_eq_some_iff.mp read
      simpa using digitValue?_lt known
  | case3 c rest ih =>
      simp only [digitRun?, Option.bind_eq_bind, Option.bind_eq_some_iff] at read
      obtain ⟨value, known, values, others, same⟩ := read
      cases same
      exact List.forall_mem_cons.mpr ⟨digitValue?_lt known, ih others⟩
  | case4 c rest more noMark ih =>
      rw [digitRun?] at read
      · simp only [Option.bind_eq_bind, Option.bind_eq_some_iff] at read
        obtain ⟨value, known, values, others, same⟩ := read
        cases same
        exact List.forall_mem_cons.mpr ⟨digitValue?_lt known, ih others⟩
      · exact more
      · exact noMark

/-- Decimal digits denote a number below the power of ten of their count. -/
theorem ofDigits_lt_pow (digits : List Nat) (decimal : ∀ digit ∈ digits, digit < 10) :
    ofDigits digits < 10 ^ digits.length := by
  induction digits using List.reverseRecOn with
  | nil => simp [ofDigits]
  | append_singleton earlier digit ih =>
      have below := ih fun other member => decimal other (List.mem_append_left _ member)
      have small := decimal digit (by simp)
      rw [ofDigits, List.foldl_append, List.length_append, List.length_singleton, Nat.pow_succ]
      simp only [List.foldl_cons, List.foldl_nil]
      rw [ofDigits] at below
      omega

/-- An integer that is read from a text can be converted. -/
theorem isConvertible_of_integer? {text : String} {value : Int}
    (read : integer? text = some value) : isConvertible value = true := by
  simp only [integer?, Option.bind_eq_bind, Option.bind_eq_some_iff] at read
  obtain ⟨digits, run, chosen⟩ := read
  split at chosen
  · rename_i few
    have below : ofDigits digits < 10 ^ digitLimit :=
      Nat.lt_of_lt_of_le (ofDigits_lt_pow digits (digitRun?_lt run))
        (Nat.pow_le_pow_right (by decide) few)
    rw [isConvertible_iff]
    obtain rfl := Option.some.inj chosen
    split
    · rwa [Int.natAbs_neg, Int.natAbs_natCast]
    · rwa [Int.natAbs_natCast]
  · cases chosen

end OtcDesk.Text
