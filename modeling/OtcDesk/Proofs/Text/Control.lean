import OtcDesk.Proofs.Json.Faithful
import OtcDesk.Text.Columns

namespace OtcDesk.Text

open Json (Uncontrolled uncontrolled_nil uncontrolled_of_all uncontrolled_hexDigits)

/-- A text relays some parts: its control characters are those of the parts. -/
def Relays (text : String) (parts : List String) : Prop :=
  ∀ mark : Char, mark.toNat < 0x20 → (mark ∈ text.toList ↔ ∃ part ∈ parts, mark ∈ part.toList)

theorem relays_self (text : String) : Relays text [text] := by
  intro mark _
  simp

theorem relays_of_uncontrolled {text : String} (plain : Uncontrolled text.toList) :
    Relays text [] := by
  intro mark control
  constructor
  · intro member
    exact absurd (plain mark member) (Nat.not_le.mpr control)
  · rintro ⟨part, ⟨⟩, _⟩

theorem Relays.append {front back : String} {parts more : List String}
    (first : Relays front parts) (second : Relays back more) :
    Relays (front ++ back) (parts ++ more) := by
  intro mark control
  rw [String.toList_append, List.mem_append, first mark control, second mark control]
  simp only [List.mem_append, or_and_right, exists_or]

/-- A fixed text in front relays nothing. -/
theorem Relays.after {text : String} {parts : List String} (relays : Relays text parts)
    (front : String) (plain : front.toList.all (0x20 ≤ ·.toNat) = true) :
    Relays (front ++ text) parts :=
  (relays_of_uncontrolled (uncontrolled_of_all plain)).append relays

/-- A fixed text behind relays nothing. -/
theorem Relays.before {text : String} {parts : List String} (relays : Relays text parts)
    (back : String) (plain : back.toList.all (0x20 ≤ ·.toNat) = true) :
    Relays (text ++ back) parts := by
  have both := relays.append (relays_of_uncontrolled (uncontrolled_of_all plain))
  rwa [List.append_nil] at both

/-- The spaces that fill a column are no control characters. -/
theorem relays_padEnd (width : Nat) (text : String) : Relays (padEnd width text) [text] := by
  intro mark control
  have noSpace : mark ≠ ' ' := by
    rintro rfl
    exact absurd control (by decide)
  simp [padEnd, List.mem_replicate, noSpace]

/-- A plain text that stands in for an empty one relays what the empty one does. -/
theorem Relays.standIn {text : String} {parts : List String} (relays : Relays "" parts)
    (plain : text.toList.all (0x20 ≤ ·.toNat) = true) : Relays text parts := by
  intro mark control
  rw [← relays mark control, relays_of_uncontrolled (uncontrolled_of_all plain) mark control]
  simp

theorem relays_orElse (text other : String) (plain : other.toList.all (0x20 ≤ ·.toNat) = true) :
    Relays (orElse text other) [text] := by
  unfold orElse
  split
  · rename_i empty
    rw [String.isEmpty_iff.mp empty]
    exact (relays_self "").standIn plain
  · exact relays_self text

theorem relays_toString (value : Int) : Relays (toString value) [] :=
  relays_of_uncontrolled (Json.uncontrolled_toString value)

/-- No control character is printable. -/
theorem le_of_isPrintable {c : Char} (printable : isPrintable c = true) : 0x20 ≤ c.toNat := by
  have unprintable : ∀ code < 0x20, inRanges printableRanges code = false := by decide +kernel
  by_contra control
  rw [isPrintable, unprintable c.toNat (Nat.not_le.mp control)] at printable
  cases printable

/-- A control character between quotation marks is written as an escape. -/
theorem uncontrolled_quotedChar {mark : Char} (shown : 0x20 ≤ mark.toNat) (c : Char) :
    Uncontrolled (quotedChar mark c) := by
  have slash : 0x20 ≤ '\\'.toNat := by decide
  have digits : ∀ {letter : Char} {count : Nat}, 0x20 ≤ letter.toNat →
      Uncontrolled ('\\' :: letter :: hexDigits count c.toNat) := fun visible =>
    .cons slash (.cons visible (uncontrolled_hexDigits _ _))
  unfold quotedChar
  split
  · rename_i special
    rw [Bool.or_eq_true, decide_eq_true_eq, decide_eq_true_eq] at special
    refine .cons slash (.cons ?_ uncontrolled_nil)
    rcases special with rfl | rfl
    · exact shown
    · exact slash
  -- the escapes of one letter
  iterate 3
    split
    · exact .cons slash (.cons (by decide) uncontrolled_nil)
  split
  · rename_i printable
    exact .cons (le_of_isPrintable printable) uncontrolled_nil
  split
  · exact digits (by decide)
  split
  · exact digits (by decide)
  · exact digits (by decide)

/-- No control character stands in a quoted text. -/
theorem uncontrolled_quoted (text : String) : Uncontrolled (quoted text).toList := by
  have mark : 0x20 ≤ (quoteMark text.toList).toNat := by
    unfold quoteMark
    split <;> decide
  have inner : Uncontrolled (text.toList.flatMap (quotedChar (quoteMark text.toList))) := by
    intro c member
    obtain ⟨d, _, escaped⟩ := List.mem_flatMap.mp member
    exact uncontrolled_quotedChar mark d c escaped
  rw [quoted, String.toList_ofList]
  exact .cons mark (inner.append (.cons mark uncontrolled_nil))

end OtcDesk.Text
