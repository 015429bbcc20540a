import Mathlib.Data.List.Basic
import OtcDesk.Text.Case

namespace OtcDesk.Text

/-- A character is plain when it belongs to ASCII. -/
def IsPlain (c : Char) : Prop := c.toNat < 0x80

instance (c : Char) : Decidable (IsPlain c) := inferInstanceAs (Decidable (_ < _))

/-- Two texts are the same up to the case of plain letters. -/
def SameLetters (left right : String) : Prop :=
  left.toList.map Char.toLower = right.toList.map Char.toLower

instance (left right : String) : Decidable (SameLetters left right) :=
  inferInstanceAs (Decidable (_ = _))

/-- The Kelvin sign, a capital of which `k` is the lower form. -/
def kelvin : Nat := 0x212a

/-- A row moves its characters to characters beyond ASCII. -/
structure CaseRow.StaysBeyond (row : CaseRow) : Prop where
  beyond : 0x80 ≤ (row.first : Int) + row.shift
  valid : (row.last : Int) + row.shift < 0xd800 ∨
    0xdfff < (row.first : Int) + row.shift ∧ (row.last : Int) + row.shift < 0x110000

instance (row : CaseRow) : Decidable row.StaysBeyond :=
  decidable_of_iff (0x80 ≤ (row.first : Int) + row.shift ∧
    ((row.last : Int) + row.shift < 0xd800 ∨
      0xdfff < (row.first : Int) + row.shift ∧ (row.last : Int) + row.shift < 0x110000))
    ⟨fun ⟨beyond, valid⟩ => ⟨beyond, valid⟩, fun ⟨beyond, valid⟩ => ⟨beyond, valid⟩⟩

/-- Rows begin with plain characters, move the Kelvin sign, or stay beyond ASCII. -/
theorem lowerRows_stay : ∀ row ∈ lowerRows,
    row.last < 0x80 ∨ (row.first = kelvin ∧ row.last = kelvin ∧ row.shift = -8383) ∨
      row.StaysBeyond := by
  decide +kernel

theorem CaseRow.between {row : CaseRow} {n : Nat} (applies : row.applies n = true) :
    row.first ≤ n ∧ n ≤ row.last := by
  simp only [CaseRow.applies, Bool.and_eq_true, decide_eq_true_eq] at applies
  exact applies.1

theorem CaseRow.StaysBeyond.not_isPlain {row : CaseRow} (stays : row.StaysBeyond) {n : Nat}
    (applies : row.applies n = true) : ¬ IsPlain (Char.ofNat (row.move n)) := by
  obtain ⟨above, below⟩ := row.between applies
  obtain ⟨beyond, valid⟩ := stays
  have isChar : (row.move n).isValidChar := by
    simp only [Nat.isValidChar, CaseRow.move]
    omega
  have image : (Char.ofNat (row.move n)).toNat = row.move n := by
    rw [Char.ofNat, dif_pos isChar]
    rfl
  rw [IsPlain, image, CaseRow.move]
  omega

/-- What holds of every code point of ASCII holds of the plain characters. -/
theorem IsPlain.of_table {P : Char → Prop} {c : Char} (plain : IsPlain c)
    (table : ∀ n < 0x80, P (Char.ofNat n)) : P c := by
  have known := table c.toNat plain
  rwa [Char.ofNat_toNat] at known

/-- The lower form of a plain character is that of its letter. -/
theorem lowerChar_of_isPlain {c : Char} (plain : IsPlain c) : lowerChar c = [c.toLower] :=
  plain.of_table (P := fun c => lowerChar c = [c.toLower]) (by decide +kernel)

/-- A character beyond ASCII has a lower form beyond ASCII, unless that is a `k`. -/
theorem lowerChar_of_not_isPlain {c : Char} (beyond : ¬ IsPlain c) :
    lowerChar c = ['k'] ∨ ∃ d ∈ lowerChar c, ¬ IsPlain d := by
  rw [lowerChar, mapCase]
  split
  · -- the dotted capital is the only character whose lower form is more than one
    rename_i expansion found
    have dotted : c.toNat = 0x130 ∧ expansion = [0x69, 0x307] := by
      simp only [lowerExpansions, List.lookup_cons, List.lookup_nil] at found
      split at found
      · rename_i same
        exact ⟨eq_of_beq same, (Option.some.inj found).symm⟩
      · cases found
    rw [dotted.2]
    exact .inr ⟨Char.ofNat 0x307, by simp, by decide⟩
  · cases found : lowerRows.find? (·.applies c.toNat) with
    | none => exact .inr ⟨c, List.mem_singleton_self c, beyond⟩
    | some row =>
        have applies : row.applies c.toNat = true := by simpa using List.find?_some found
        obtain ⟨above, below⟩ := row.between applies
        rcases lowerRows_stay row (List.mem_of_find?_eq_some found) with
          low | ⟨first, last, shift⟩ | stays
        · exact absurd (Nat.lt_of_le_of_lt below low) beyond
        · have sign : c.toNat = kelvin := Nat.le_antisymm (last ▸ below) (first ▸ above)
          simp only [CaseRow.move, sign, shift]
          exact .inl rfl
        · exact .inr ⟨_, List.mem_singleton_self _, stays.not_isPlain applies⟩

theorem not_isPlain_lowerSigma (before after : List Char) :
    ¬ IsPlain (lowerSigma before after) := by
  unfold lowerSigma
  split <;> decide

/-- A text has no capitals, no `k`, and only plain characters. -/
def IsUnmistakable (text : String) : Prop :=
  ∀ c ∈ text.toList, IsPlain c ∧ c.toLower = c ∧ c ≠ 'k'

instance (text : String) : Decidable (IsUnmistakable text) :=
  List.decidableBAll (fun c => IsPlain c ∧ c.toLower = c ∧ c ≠ 'k') text.toList

theorem isPlain_of_toLower {c : Char} (plain : IsPlain c.toLower) : IsPlain c := by
  unfold Char.toLower at plain
  split at plain
  · rename_i capital
    exact Nat.lt_of_le_of_lt (UInt32.le_iff_toNat_le.mp capital.2) (by decide)
  · exact plain

/-- A plain text in lower case has its letters in lower case. -/
theorem lowerFrom_of_isPlain {text : List Char} (plain : ∀ c ∈ text, IsPlain c)
    (before : List Char) : lowerFrom before text = text.map Char.toLower := by
  induction text generalizing before with
  | nil => rfl
  | cons c rest inductionHypothesis =>
      have here : IsPlain c := plain c List.mem_cons_self
      have noSigma : c ≠ 'Σ' := by
        rintro rfl
        exact absurd here (by decide)
      have later := inductionHypothesis
        (fun d member => plain d (List.mem_cons_of_mem c member)) (c :: before)
      rw [lowerFrom, if_neg noSigma, lowerChar_of_isPlain here, later]
      rfl

theorem lower_of_isPlain {text : String} (plain : ∀ c ∈ text.toList, IsPlain c) :
    lower text = String.ofList (text.toList.map Char.toLower) := by
  rw [lower, lowerFrom_of_isPlain plain]

/-- A text is plain if its lower form is and has no `k`. -/
theorem isPlain_of_lowerFrom {text before : List Char}
    (formed : ∀ d ∈ lowerFrom before text, IsPlain d ∧ d ≠ 'k') : ∀ c ∈ text, IsPlain c := by
  induction text generalizing before with
  | nil => simp
  | cons c rest inductionHypothesis =>
      simp only [lowerFrom, List.forall_mem_append] at formed
      obtain ⟨here, later⟩ := formed
      have plain : IsPlain c := by
        by_contra beyond
        by_cases sigma : c = 'Σ'
        · rw [if_pos sigma] at here
          exact not_isPlain_lowerSigma before rest (here _ (List.mem_singleton_self _)).1
        · rw [if_neg sigma] at here
          rcases lowerChar_of_not_isPlain beyond with letter | ⟨d, member, strange⟩
          · exact (here 'k' (by simp [letter])).2 rfl
          · exact strange (here d member).1
      exact List.forall_mem_cons.mpr ⟨plain, inductionHypothesis later⟩

/-- The texts with an unmistakable lower form are those with its letters in either case. -/
theorem lower_eq_iff {target : String} (unmistakable : IsUnmistakable target) (text : String) :
    lower text = target ↔ SameLetters text target := by
  have own : target.toList.map Char.toLower = target.toList :=
    (List.map_congr_left fun c member => (unmistakable c member).2.1).trans (List.map_id _)
  rw [SameLetters, own]
  constructor
  · rintro rfl
    have formed : ∀ d ∈ lowerFrom [] text.toList, IsPlain d ∧ d ≠ 'k' := by
      intro d member
      obtain ⟨plain, -, other⟩ := unmistakable d (by simpa [lower] using member)
      exact ⟨plain, other⟩
    rw [lower_of_isPlain (isPlain_of_lowerFrom formed), String.toList_ofList]
  · intro same
    have plain : ∀ c ∈ text.toList, IsPlain c := by
      intro c member
      have image : c.toLower ∈ target.toList := by
        rw [← same]
        exact List.mem_map_of_mem member
      exact isPlain_of_toLower (unmistakable _ image).1
    rw [lower_of_isPlain plain, same, String.ofList_toList]

end OtcDesk.Text
