import OtcDesk.Proofs.Json.Objects
import OtcDesk.Proofs.Json.RoundTrip

namespace OtcDesk.Json

/-- There is no control character among these. -/
def Uncontrolled (text : List Char) : Prop := ∀ c ∈ text, 0x20 ≤ c.toNat

theorem uncontrolled_nil : Uncontrolled [] := nofun

theorem Uncontrolled.append {front back : List Char} (first : Uncontrolled front)
    (second : Uncontrolled back) : Uncontrolled (front ++ back) := by
  intro c member
  rcases List.mem_append.mp member with early | late
  · exact first c early
  · exact second c late

theorem Uncontrolled.cons {c : Char} {rest : List Char} (shown : 0x20 ≤ c.toNat)
    (later : Uncontrolled rest) : Uncontrolled (c :: rest) := by
  intro d member
  rcases List.mem_cons.mp member with rfl | late
  · exact shown
  · exact later d late

theorem uncontrolled_of_all {text : List Char} (all : text.all (0x20 ≤ ·.toNat) = true) :
    Uncontrolled text := by
  intro c member
  exact of_decide_eq_true (List.all_eq_true.mp all c member)

theorem uncontrolled_hexDigits (count value : Nat) : Uncontrolled (Text.hexDigits count value) := by
  intro c member
  have letters : ∀ digit < 16, 0x20 ≤ (Text.hexDigit digit).toNat := by decide
  obtain ⟨digit, fits, rfl⟩ := Text.mem_hexDigits member
  exact letters digit fits

theorem uncontrolled_codeEscape (code : Nat) : Uncontrolled (codeEscape code) := by
  have unit : ∀ unit, Uncontrolled (unitEscape unit) := fun unit =>
    .cons (by decide) (.cons (by decide) (uncontrolled_hexDigits 4 unit))
  unfold codeEscape
  split
  · exact unit _
  · exact (unit _).append (unit _)

/-- A control character is escaped, in either style. -/
theorem uncontrolled_escapeChar (asciiOnly : Bool) (c : Char) :
    Uncontrolled (escapeChar asciiOnly c) := by
  unfold escapeChar
  -- the escapes of one letter
  iterate 7
    split
    · exact uncontrolled_of_all (by decide)
  split
  · exact uncontrolled_codeEscape _
  · rename_i plain
    simp only [Bool.or_eq_true, decide_eq_true_eq, not_or] at plain
    exact .cons (Nat.not_lt.mp plain.1) uncontrolled_nil

theorem uncontrolled_quoteList (asciiOnly : Bool) (text : List Char) :
    Uncontrolled (quoteList asciiOnly text) := by
  have inner : Uncontrolled (text.flatMap (escapeChar asciiOnly)) := by
    intro c member
    obtain ⟨d, _, escaped⟩ := List.mem_flatMap.mp member
    exact uncontrolled_escapeChar asciiOnly d c escaped
  exact .cons (by decide) (inner.append (.cons (by decide) uncontrolled_nil))

theorem uncontrolled_toString (value : Int) : Uncontrolled (toString value).toList := by
  have digits : ∀ number, Uncontrolled (Nat.toDigits 10 number) := by
    intro number c member
    have digit := Nat.isDigit_of_mem_toDigits (by decide) (by decide) member
    simp only [Char.isDigit, Bool.and_eq_true, decide_eq_true_eq] at digit
    have low : '0'.toNat ≤ c.toNat := digit.1
    exact Nat.le_trans (by decide) low
  cases value with
  | ofNat number =>
      rw [toList_toString_ofNat]
      exact digits number
  | negSucc number =>
      rw [toList_toString_negSucc]
      exact .cons (by decide) (digits _)

/-- A style puts no control characters between items or behind keys. -/
structure Style.Uncontrolled (style : Style) : Prop where
  item : Json.Uncontrolled style.itemGap.toList
  key : Json.Uncontrolled style.keyGap.toList

theorem Style.compact_uncontrolled : Style.compact.Uncontrolled :=
  ⟨.cons (by decide) uncontrolled_nil, .cons (by decide) uncontrolled_nil⟩

theorem uncontrolled_writeItems {style : Style} (clean : style.Uncontrolled) (items : List Json) :
    (∀ item ∈ items, Uncontrolled (writeList style item)) →
      Uncontrolled (writeItems style items) := by
  induction items with
  | nil => exact fun _ => uncontrolled_nil
  | cons first later ih =>
      intro known
      have head := known first List.mem_cons_self
      cases later with
      | nil => exact head
      | cons second more =>
          rw [writeItems_cons_cons]
          exact (head.append clean.item).append
            (ih fun item member => known item (List.mem_cons_of_mem _ member))

theorem uncontrolled_writeFields {style : Style} (clean : style.Uncontrolled)
    (fields : List (String × Json)) :
    (∀ field ∈ fields, Uncontrolled (writeList style field.2)) →
      Uncontrolled (writeFields style fields) := by
  induction fields with
  | nil => exact fun _ => uncontrolled_nil
  | cons first later ih =>
      intro known
      have head : Uncontrolled (writeField style first) :=
        ((uncontrolled_quoteList _ _).append clean.key).append (known first List.mem_cons_self)
      cases later with
      | nil =>
          rw [writeFields_singleton]
          exact head
      | cons second more =>
          rw [writeFields_cons_cons]
          exact (head.append clean.item).append
            (ih fun field member => known field (List.mem_cons_of_mem _ member))

/-- No control character stands in the text of a plain value, whatever characters its texts have. -/
theorem Plain.uncontrolled {style : Style} (clean : style.Uncontrolled) {value : Json}
    {levels : Nat} (plain : value.Plain levels) : Uncontrolled (writeList style value) := by
  induction plain with
  | null => exact show Uncontrolled "null".toList from uncontrolled_of_all (by decide)
  | bool value =>
      cases value with
      | true => exact show Uncontrolled "true".toList from uncontrolled_of_all (by decide)
      | false => exact show Uncontrolled "false".toList from uncontrolled_of_all (by decide)
  | int value convertible => exact uncontrolled_toString value
  | str text => exact uncontrolled_quoteList _ _
  | arr items inner ih =>
      rw [writeList]
      exact .cons (by decide) ((uncontrolled_writeItems clean items ih).append
        (.cons (by decide) uncontrolled_nil))
  | obj fields distinct inner ih =>
      rw [writeList]
      exact .cons (by decide) ((uncontrolled_writeFields clean fields ih).append
        (.cons (by decide) uncontrolled_nil))

/-- The fields of a plain object stand in its text as they are. -/
theorem fieldPairs?_write {style : Style} (regular : style.Regular) {fields : List (String × Json)}
    {levels : Nat} (inner : ∀ field ∈ fields, field.2.Plain levels)
    (fits : levels + 1 = nestingLimit) :
    fieldPairs? ((obj fields).write style) = some fields := by
  have opened : writeList style (obj fields) = '\x7b' :: (writeFields style fields ++ ['\x7d']) := by
    rw [writeList]
  have started : skipGap (writeList style (obj fields)) = writeList style (obj fields) := by
    rw [opened]
    exact skipGap_solid _ (by decide)
  have read : readPairs (2 * (writeList style (obj fields)).length + 1) (levels + 1)
      (writeList style (obj fields)) = .ok (fields, []) := by
    cases fields with
    | nil => rfl
    | cons first later =>
        have known : ∀ field ∈ first :: later,
            field.2.Plain levels ∧ ReadsBack style field.2 levels := fun field member =>
          ⟨inner field member, (inner field member).readsBack regular⟩
        have reads := readFields_writeFields regular (first :: later) (List.cons_ne_nil _ _) known
          (2 * (writeList style (obj (first :: later))).length + 1) []
          (by rw [opened, List.length_cons, List.length_append]; omega)
        obtain ⟨rest, quoted⟩ := writeFields_eq_cons style first later
        have solid : isGap '"' = false := by decide
        rw [opened] at reads ⊢
        rw [readPairs, enter]
        rw [quoted, List.cons_append] at reads ⊢
        rw [skipGap_solid _ solid, readOpened]
        · exact reads
        · rintro _ ⟨⟩
  rw [fieldPairs?, write, String.toList_ofList, started, ← fits, read]
  rfl

/-- No two plain values have the same text. -/
theorem write_inj {style : Style} (regular : style.Regular) {value other : Json}
    (plain : value.Plain nestingLimit) (alsoPlain : other.Plain nestingLimit)
    (same : value.write style = other.write style) :
    value = other := by
  have read := read?_write regular plain
  rw [same, read?_write regular alsoPlain] at read
  exact (Option.some.inj read).symm

end OtcDesk.Json
