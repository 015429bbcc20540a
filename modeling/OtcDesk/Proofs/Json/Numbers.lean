import Mathlib.Data.List.TakeDrop
import OtcDesk.Json.Reader
import OtcDesk.Json.Writer

namespace OtcDesk.Json

/-- A text does not go on with a number that stands before it. -/
def EndsNumber (rest : List Char) : Prop :=
  ∀ c ∈ rest.head?, c.isDigit = false ∧ c ≠ '.' ∧ c ≠ 'e' ∧ c ≠ 'E'

theorem endsNumber_nil : EndsNumber [] := by
  intro c member
  cases member

theorem endsNumber_cons {c : Char} (rest : List Char) (solid : c.isDigit = false)
    (point : c ≠ '.') (small : c ≠ 'e') (large : c ≠ 'E') : EndsNumber (c :: rest) := by
  intro head member
  obtain rfl := Option.some.inj member
  exact ⟨solid, point, small, large⟩

theorem ofDigitChars_toDigits (number : Nat) : ofDigitChars (Nat.toDigits 10 number) = number := by
  have folded : ofDigitChars (Nat.toDigits 10 number) =
      Nat.ofDigitChars 10 (Nat.toDigits 10 number) 0 := by
    simp only [ofDigitChars, Text.ofDigits, List.foldl_map]
    rfl
  rw [folded, Nat.ofDigitChars_ten_toDigits]

/-- A number other than zero has no zero in front. -/
theorem head?_toDigits (number : Nat) : 0 < number → (Nat.toDigits 10 number).head? ≠ some '0' := by
  induction number using Nat.strongRecOn with
  | _ number ih =>
      intro positive
      rw [Nat.toDigits_eq_if (by decide)]
      split
      · rename_i small
        have digit : ∀ value < 10, 0 < value → Nat.digitChar value ≠ '0' := by decide
        simpa using digit number small positive
      · have shorter := ih (number / 10) (by omega) (by omega)
        cases written : Nat.toDigits 10 (number / 10) with
        | nil => exact absurd written Nat.toDigits_ne_nil
        | cons c rest =>
            rw [written] at shorter
            exact shorter

theorem splitDigits_append {digits rest : List Char} (all : ∀ c ∈ digits, c.isDigit = true)
    (ends : EndsNumber rest) : splitDigits (digits ++ rest) = (digits, rest) := by
  have stops : rest.takeWhile Char.isDigit = [] ∧ rest.dropWhile Char.isDigit = rest := by
    cases rest with
    | nil => exact ⟨rfl, rfl⟩
    | cons c later =>
        have solid := (ends c rfl).1
        simp [solid]
  rw [splitDigits, List.span_eq_takeWhile_dropWhile, List.takeWhile_append_of_pos all,
    List.dropWhile_append_of_pos all, stops.1, stops.2, List.append_nil]

theorem readWhole_toDigits (number : Nat) {rest : List Char} (ends : EndsNumber rest) :
    readWhole (Nat.toDigits 10 number ++ rest) = some (Nat.toDigits 10 number, rest) := by
  by_cases zero : number = 0
  · subst zero
    rfl
  · have front := head?_toDigits number (Nat.pos_of_ne_zero zero)
    have digits : ∀ c ∈ Nat.toDigits 10 number, c.isDigit = true := fun c member =>
      Nat.isDigit_of_mem_toDigits (by decide) (by decide) member
    have split := splitDigits_append digits ends
    cases written : Nat.toDigits 10 number with
    | nil => exact absurd written Nat.toDigits_ne_nil
    | cons c later =>
        rw [written] at front split
        have first : c ≠ '0' := fun same => front (congrArg some same)
        rw [List.cons_append] at split ⊢
        unfold readWhole
        split
        · rename_i impossible
          exact absurd (List.cons.inj impossible).1 first
        · rw [split]
          rfl

/-- The digits of a number are read as an integer. -/
theorem readUnsigned_toDigits (negative : Bool) (number : Nat) {rest : List Char}
    (ends : EndsNumber rest) :
    readUnsigned negative (Nat.toDigits 10 number ++ rest) =
      some (int (if negative then -(number : Int) else number), rest) := by
  have fraction : readFraction rest = ([], rest) := by
    unfold readFraction
    split
    · exact absurd rfl (ends '.' rfl).2.1
    · rfl
  have exponent : readExponent rest = none := by
    unfold readExponent
    split
    · rfl
    · rename_i mark later
      have mark_ := ends mark rfl
      rw [if_neg (by simp [mark_.2.2.1, mark_.2.2.2])]
  simp [readUnsigned, readWhole_toDigits number ends, fraction, exponent, ofDigitChars_toDigits]

/-- The first digit of a number begins no name, no sign, no string, no list and no object. -/
theorem toDigits_eq_cons (number : Nat) :
    ∃ c rest, Nat.toDigits 10 number = c :: rest ∧ c.isDigit = true := by
  cases written : Nat.toDigits 10 number with
  | nil => exact absurd written Nat.toDigits_ne_nil
  | cons c rest =>
      have member : c ∈ Nat.toDigits 10 number := by
        rw [written]
        exact List.mem_cons_self
      exact ⟨c, rest, rfl, Nat.isDigit_of_mem_toDigits (by decide) (by decide) member⟩

theorem toList_toString_ofNat (number : Nat) :
    (toString (Int.ofNat number)).toList = Nat.toDigits 10 number :=
  Nat.toList_repr

theorem toList_toString_negSucc (number : Nat) :
    (toString (Int.negSucc number)).toList = '-' :: Nat.toDigits 10 (number + 1) := by
  have written : toString (Int.negSucc number) = "-" ++ (number + 1).repr := rfl
  rw [written, String.toList_append, Nat.toList_repr]
  rfl

/-- Nothing but a number starts with a digit. -/
theorem readAtom_digit {c : Char} (digit : c.isDigit = true) (later : List Char) :
    readAtom (c :: later) = readUnsigned false (c :: later) := by
  have different : c ≠ 'n' ∧ c ≠ 't' ∧ c ≠ 'f' ∧ c ≠ 'N' ∧ c ≠ 'I' ∧ c ≠ '-' := by
    refine ⟨?_, ?_, ?_, ?_, ?_, ?_⟩ <;> (intro same; subst same; revert digit; decide)
  unfold readAtom
  split <;> simp_all

/-- An integer is read back from its text. -/
theorem readAtom_toString (value : Int) {rest : List Char} (ends : EndsNumber rest) :
    readAtom ((toString value).toList ++ rest) = some (int value, rest) := by
  cases value with
  | ofNat number =>
      have read := readUnsigned_toDigits false number ends
      obtain ⟨c, later, written, digit⟩ := toDigits_eq_cons number
      rw [toList_toString_ofNat, written, List.cons_append, readAtom_digit digit, ← List.cons_append,
        ← written, read]
      rfl
  | negSucc number =>
      have read := readUnsigned_toDigits true (number + 1) ends
      obtain ⟨c, later, written, digit⟩ := toDigits_eq_cons (number + 1)
      have finite : afterName? "Infinity" (Nat.toDigits 10 (number + 1) ++ rest) = none := by
        have first : c ≠ 'I' := by
          intro same
          subst same
          revert digit
          decide
        simp [afterName?, written, first.symm]
      rw [toList_toString_negSucc, List.cons_append, readAtom, finite, read]
      rfl

end OtcDesk.Json
