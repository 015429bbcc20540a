import OtcDesk.Proofs.Json.Numbers
import OtcDesk.Proofs.Json.Objects
import OtcDesk.Proofs.Json.Strings
import OtcDesk.Proofs.Table

namespace OtcDesk.Json

/-- A value of limited depth without doubles, long integers and repeated keys. -/
inductive Plain : Json → Nat → Prop where
  | null {levels : Nat} : Plain null levels
  | bool {levels : Nat} (value : Bool) : Plain (bool value) levels
  | int {levels : Nat} (value : Int) (convertible : Text.isConvertible value = true) :
      Plain (int value) levels
  | str {levels : Nat} (text : String) : Plain (str text) levels
  | arr {levels : Nat} (items : List Json) (inner : ∀ item ∈ items, Plain item levels) :
      Plain (arr items) (levels + 1)
  | obj {levels : Nat} (fields : List (String × Json)) (distinct : (fields.map (·.1)).Nodup)
      (inner : ∀ field ∈ fields, Plain field.2 levels) : Plain (obj fields) (levels + 1)

/-- An object of texts is plain if it repeats no key. -/
theorem plain_texts {levels : Nat} (fields : List (String × String))
    (distinct : (fields.map (·.1)).Nodup) :
    (obj (fields.map fun field => (field.1, str field.2))).Plain (levels + 1) := by
  refine .obj _ ?_ ?_
  · rw [List.map_map]
    exact distinct
  · intro field member
    obtain ⟨_, _, rfl⟩ := List.mem_map.mp member
    exact .str _

/-- A style separates items by a comma and keys by a colon, with white space after them. -/
structure Style.Regular (style : Style) : Prop where
  item : ∃ gap, style.itemGap.toList = ',' :: gap ∧ ∀ c ∈ gap, isGap c = true
  key : ∃ gap, style.keyGap.toList = ':' :: gap ∧ ∀ c ∈ gap, isGap c = true

theorem Style.stored_regular : Style.stored.Regular := by
  have blank : ∀ c ∈ [' '], isGap c = true := by
    intro c member
    rw [List.mem_singleton.mp member]
    rfl
  exact ⟨⟨[' '], rfl, blank⟩, ⟨[' '], rfl, blank⟩⟩

theorem Style.compact_regular : Style.compact.Regular := by
  have blank : ∀ c ∈ [], isGap c = true := by
    intro c member
    cases member
  exact ⟨⟨[], rfl, blank⟩, ⟨[], rfl, blank⟩⟩

/-- A text starts with a character that is neither white space nor closes a list. -/
def StartsValue (text : List Char) : Prop :=
  ∃ c later, text = c :: later ∧ isGap c = false ∧ c ≠ ']'

theorem StartsValue.append {text : List Char} (starts : StartsValue text) (rest : List Char) :
    StartsValue (text ++ rest) := by
  obtain ⟨c, later, same, solid, open_⟩ := starts
  exact ⟨c, later ++ rest, by rw [same, List.cons_append], solid, open_⟩

theorem skipGap_append {gap text : List Char} (blank : ∀ c ∈ gap, isGap c = true)
    (starts : StartsValue text) : skipGap (gap ++ text) = text := by
  obtain ⟨c, later, rfl, solid, _⟩ := starts
  rw [skipGap, List.dropWhile_append_of_pos blank]
  exact skipGap_solid later solid

theorem startsValue_toDigits (number : Nat) : StartsValue (Nat.toDigits 10 number) := by
  obtain ⟨c, later, written, digit⟩ := toDigits_eq_cons number
  refine ⟨c, later, written, ?_, ?_⟩
  · cases blank : isGap c with
    | false => rfl
    | true =>
        simp only [isGap, Bool.or_eq_true, beq_iff_eq] at blank
        rcases blank with ((same | same) | same) | same <;> (subst same; cases digit)
  · intro same
    subst same
    cases digit

theorem startsValue_int (value : Int) : StartsValue (toString value).toList := by
  cases value with
  | ofNat number =>
      rw [toList_toString_ofNat]
      exact startsValue_toDigits number
  | negSucc number => exact ⟨'-', _, toList_toString_negSucc number, by decide, by decide⟩

/-- The text of a value starts like a value. -/
theorem startsValue_writeList (style : Style) {value : Json} {levels : Nat}
    (plain : value.Plain levels) : StartsValue (writeList style value) := by
  cases plain with
  | null => exact ⟨'n', _, rfl, by decide, by decide⟩
  | bool value =>
      cases value with
      | true => exact ⟨'t', _, rfl, by decide, by decide⟩
      | false => exact ⟨'f', _, rfl, by decide, by decide⟩
  | int value convertible => exact startsValue_int value
  | str text => exact ⟨'"', _, rfl, by decide, by decide⟩
  | arr items inner => exact ⟨'[', _, by rw [writeList], by decide, by decide⟩
  | obj fields distinct inner => exact ⟨'\x7b', _, by rw [writeList], by decide, by decide⟩

/-- A value is read back from its text when the fuel is twice the length of the text. -/
def ReadsBack (style : Style) (value : Json) (levels : Nat) : Prop :=
  ∀ fuel rest, 2 * (writeList style value).length ≤ fuel → EndsNumber rest →
    readValue fuel levels (writeList style value ++ rest) = .ok (value, rest)

/-- What closes or separates ends a number. -/
theorem endsNumber_mark {mark : Char} (known : mark = ',' ∨ mark = ']' ∨ mark = '\x7d')
    (rest : List Char) : EndsNumber (mark :: rest) := by
  rcases known with same | same | same <;> subst same
  · exact endsNumber_cons rest (by decide) (by decide) (by decide) (by decide)
  · exact endsNumber_cons rest (by decide) (by decide) (by decide) (by decide)
  · exact endsNumber_cons rest (by decide) (by decide) (by decide) (by decide)

theorem writeItems_cons_cons (style : Style) (first second : Json) (more : List Json) :
    writeItems style (first :: second :: more) =
      writeList style first ++ style.itemGap.toList ++ writeItems style (second :: more) := by
  rw [writeItems]
  exact List.cons_ne_nil _ _

theorem startsValue_writeItems (style : Style) {first : Json} {levels : Nat} (rest : List Json)
    (plain : first.Plain levels) : StartsValue (writeItems style (first :: rest)) := by
  have starts := startsValue_writeList style plain
  cases rest with
  | nil => exact starts
  | cons second later =>
      rw [writeItems_cons_cons, List.append_assoc]
      exact starts.append _

/-- The items of a list are read back up to the closing bracket. -/
theorem readItems_writeItems {style : Style} {levels : Nat} (regular : style.Regular)
    (items : List Json) :
    items ≠ [] → (∀ item ∈ items, item.Plain levels ∧ ReadsBack style item levels) →
      ∀ fuel rest, 2 * (writeItems style items).length < fuel →
        readItems fuel levels (writeItems style items ++ ']' :: rest) = .ok (items, rest) := by
  obtain ⟨gap, comma, blank⟩ := regular.item
  induction items with
  | nil => exact fun some_ => absurd rfl some_
  | cons first later ih =>
      intro _ known fuel rest enough
      obtain ⟨plain, reads⟩ := known first List.mem_cons_self
      obtain ⟨less, rfl⟩ := Nat.exists_eq_succ_of_ne_zero (Nat.ne_of_gt (Nat.zero_lt_of_lt enough))
      cases later with
      | nil =>
          have read := reads less (']' :: rest) (by rw [writeItems] at enough; omega)
            (endsNumber_mark (.inr (.inl rfl)) rest)
          rw [writeItems, readItems, read]
          rfl
      | cons second more =>
          have knownLater : ∀ item ∈ second :: more,
              item.Plain levels ∧ ReadsBack style item levels :=
            fun item member => known item (List.mem_cons_of_mem _ member)
          have starts := startsValue_writeItems style more (knownLater second List.mem_cons_self).1
          have size : (writeItems style (first :: second :: more)).length =
              (writeList style first).length + (gap.length + 1) +
                (writeItems style (second :: more)).length := by
            rw [writeItems_cons_cons, comma, List.length_append, List.length_append, List.length_cons]
          have read := reads less
            (',' :: (gap ++ (writeItems style (second :: more) ++ ']' :: rest))) (by omega)
            (endsNumber_mark (.inl rfl) _)
          have readLater := ih (List.cons_ne_nil _ _) knownLater less rest (by omega)
          have solid : isGap ',' = false := by decide
          rw [writeItems_cons_cons, comma, List.append_assoc, List.append_assoc, List.cons_append,
            readItems, read]
          simp only [ok_bind, skipGap_solid _ solid, skipGap_append blank (starts.append _), readLater]
          rfl

/-- A field in a style. -/
def writeField (style : Style) (field : String × Json) : List Char :=
  quoteList style.asciiOnly field.1.toList ++ style.keyGap.toList ++ writeList style field.2

theorem writeFields_singleton (style : Style) (field : String × Json) :
    writeFields style [field] = writeField style field := by
  rw [writeFields, writeField]

theorem writeFields_cons_cons (style : Style) (first second : String × Json)
    (more : List (String × Json)) :
    writeFields style (first :: second :: more) =
      writeField style first ++ style.itemGap.toList ++ writeFields style (second :: more) := by
  rw [writeFields, writeField]
  exact List.cons_ne_nil _ _

/-- The fields of an object begin with a quotation mark. -/
theorem writeFields_eq_cons (style : Style) (first : String × Json)
    (later : List (String × Json)) : ∃ rest, writeFields style (first :: later) = '"' :: rest := by
  cases later with
  | nil => exact ⟨_, by rw [writeFields_singleton]; rfl⟩
  | cons second more => exact ⟨_, by rw [writeFields_cons_cons]; rfl⟩

theorem startsValue_writeFields (style : Style) (first : String × Json)
    (later : List (String × Json)) : StartsValue (writeFields style (first :: later)) := by
  obtain ⟨rest, same⟩ := writeFields_eq_cons style first later
  exact ⟨'"', rest, same, by decide, by decide⟩

/-- A field is read back, and what follows decides whether there is another. -/
theorem readFields_writeField {style : Style} {levels : Nat} (regular : style.Regular)
    (field : String × Json) (plain : field.2.Plain levels)
    (reads : ReadsBack style field.2 levels) (fuel : Nat) (rest : List Char)
    (enough : 2 * (writeField style field).length ≤ fuel) (ends : EndsNumber rest) :
    readFields (fuel + 1) levels (writeField style field ++ rest) =
      match skipGap rest with
      | '\x7d' :: rest => .ok ([field], rest)
      | ',' :: rest => do
        let (fields, rest) ← readFields fuel levels (skipGap rest)
        return (field :: fields, rest)
      | _ => .error .malformed := by
  obtain ⟨gap, colon, blank⟩ := regular.key
  obtain ⟨key, value⟩ := field
  dsimp only at plain reads
  have escaped := length_le_escaped style.asciiOnly key.toList
  simp only [writeField, quoteList, colon, List.length_append, List.length_cons] at enough
  have starts := (startsValue_writeList style plain).append rest
  have readKey := readString_quoted style.asciiOnly key.toList
    (':' :: (gap ++ (writeList style value ++ rest))) fuel (by omega)
  have readBack := reads fuel rest (by omega) ends
  have solid : isGap ':' = false := by decide
  have whole : writeField style (key, value) ++ rest =
      '"' :: (key.toList.flatMap (escapeChar style.asciiOnly) ++
        '"' :: (':' :: (gap ++ (writeList style value ++ rest)))) := by
    simp [writeField, quoteList, colon]
  rw [whole, readFields, readKey]
  simp only [expect, ok_bind, skipGap_solid _ solid, skipGap_append blank starts, readBack,
    String.ofList_toList]
  rfl

/-- The fields of an object are read back up to the closing brace. -/
theorem readFields_writeFields {style : Style} {levels : Nat} (regular : style.Regular)
    (fields : List (String × Json)) :
    fields ≠ [] → (∀ field ∈ fields, field.2.Plain levels ∧ ReadsBack style field.2 levels) →
      ∀ fuel rest, 2 * (writeFields style fields).length < fuel →
        readFields fuel levels (writeFields style fields ++ '\x7d' :: rest) =
          .ok (fields, rest) := by
  obtain ⟨gap, comma, blank⟩ := regular.item
  induction fields with
  | nil => exact fun some_ => absurd rfl some_
  | cons first later ih =>
      intro _ known fuel rest enough
      obtain ⟨plain, reads⟩ := known first List.mem_cons_self
      obtain ⟨less, rfl⟩ := Nat.exists_eq_succ_of_ne_zero (Nat.ne_of_gt (Nat.zero_lt_of_lt enough))
      cases later with
      | nil =>
          have solid : isGap '\x7d' = false := by decide
          rw [writeFields_singleton] at enough ⊢
          rw [readFields_writeField regular first plain reads less _ (by omega)
            (endsNumber_mark (.inr (.inr rfl)) rest), skipGap_solid _ solid]
          rfl
      | cons second more =>
          have solid : isGap ',' = false := by decide
          have starts := startsValue_writeFields style second more
          have size : (writeFields style (first :: second :: more)).length =
              (writeField style first).length + (gap.length + 1) +
                (writeFields style (second :: more)).length := by
            rw [writeFields_cons_cons, comma, List.length_append, List.length_append,
              List.length_cons]
          have readLater := ih (List.cons_ne_nil _ _)
            (fun field member => known field (List.mem_cons_of_mem _ member)) less rest (by omega)
          rw [writeFields_cons_cons, comma, List.append_assoc, List.append_assoc, List.cons_append,
            readFields_writeField regular first plain reads less _ (by omega)
              (endsNumber_mark (.inl rfl) _), skipGap_solid _ solid]
          simp only [skipGap_append blank (starts.append _), readLater, ok_bind]
          rfl

/-- A text that opens no string, list or object is read as a scalar. -/
theorem readValue_scalar {c : Char} (fuel levels : Nat) (later : List Char) (quote : c ≠ '"')
    (bracket : c ≠ '[') (brace : c ≠ '\x7b') :
    readValue (fuel + 1) levels (c :: later) = readScalar (c :: later) := by
  unfold readValue
  split <;> simp_all

theorem readsBack_arr {style : Style} {levels : Nat} (regular : style.Regular)
    (items : List Json) (known : ∀ item ∈ items, item.Plain levels ∧ ReadsBack style item levels) :
    ReadsBack style (arr items) (levels + 1) := by
  intro fuel rest enough _
  rw [writeList, List.length_cons, List.length_append] at enough
  obtain ⟨less, rfl⟩ := Nat.exists_eq_succ_of_ne_zero (Nat.ne_of_gt (by omega : 0 < fuel))
  rw [writeList, List.cons_append, List.append_assoc, List.singleton_append]
  cases items with
  | nil => rfl
  | cons first later =>
      have starts := startsValue_writeItems style later (known first List.mem_cons_self).1
      have read := readItems_writeItems regular (first :: later) (List.cons_ne_nil _ _) known less
        rest (by omega)
      obtain ⟨c, text, same, solid, open_⟩ := starts
      rw [same, List.cons_append] at read ⊢
      rw [readValue, enter, skipGap_solid _ solid]
      split
      · rename_i closed
        exact absurd (List.cons.inj closed).1 open_
      · rw [read]
        rfl

theorem readsBack_obj {style : Style} {levels : Nat} (regular : style.Regular)
    (fields : List (String × Json)) (distinct : (fields.map (·.1)).Nodup)
    (known : ∀ field ∈ fields, field.2.Plain levels ∧ ReadsBack style field.2 levels) :
    ReadsBack style (obj fields) (levels + 1) := by
  intro fuel rest enough _
  rw [writeList, List.length_cons, List.length_append] at enough
  obtain ⟨less, rfl⟩ := Nat.exists_eq_succ_of_ne_zero (Nat.ne_of_gt (by omega : 0 < fuel))
  rw [writeList, List.cons_append, List.append_assoc, List.singleton_append]
  cases fields with
  | nil => rfl
  | cons first later =>
      have read := readFields_writeFields regular (first :: later) (List.cons_ne_nil _ _) known less
        rest (by omega)
      obtain ⟨text, same⟩ := writeFields_eq_cons style first later
      have solid : isGap '"' = false := by decide
      rw [same, List.cons_append] at read ⊢
      rw [readValue, enter, skipGap_solid _ solid]
      split
      · rename_i closed
        cases (List.cons.inj closed).1
      · rw [read]
        simp only [ok_bind, Table.ofList_of_nodup distinct]
        rfl

/-- An atom is read back. -/
theorem ReadsBack.of_atom {style : Style} {value : Json} {c : Char} {later : List Char}
    {levels : Nat} (written : writeList style value = c :: later) (quote : c ≠ '"')
    (bracket : c ≠ '[') (brace : c ≠ '\x7b')
    (convertible : ∀ number, value = int number → Text.isConvertible number = true)
    (read : ∀ rest, EndsNumber rest → readAtom (writeList style value ++ rest) = some (value, rest)) :
    ReadsBack style value levels := by
  intro fuel rest enough ends
  rw [written, List.length_cons] at enough
  obtain ⟨less, rfl⟩ := Nat.exists_eq_succ_of_ne_zero (Nat.ne_of_gt (by omega : 0 < fuel))
  have atom := readScalar_eq_ok.mpr ⟨read rest ends, convertible⟩
  rw [written, List.cons_append] at atom ⊢
  rw [readValue_scalar less levels _ quote bracket brace, atom]

theorem readsBack_int (style : Style) {value : Int} {levels : Nat}
    (convertible : Text.isConvertible value = true) : ReadsBack style (int value) levels := by
  have same : ∀ number, int value = int number → Text.isConvertible number = true := by
    rintro _ ⟨⟩
    exact convertible
  have read : ∀ rest, EndsNumber rest →
      readAtom (writeList style (int value) ++ rest) = some (int value, rest) := by
    intro rest ends
    rw [writeList]
    exact readAtom_toString value ends
  cases value with
  | ofNat number =>
      obtain ⟨c, later, written, digit⟩ := toDigits_eq_cons number
      have different : c ≠ '"' ∧ c ≠ '[' ∧ c ≠ '\x7b' := by
        refine ⟨?_, ?_, ?_⟩ <;> (intro same; subst same; cases digit)
      obtain ⟨quote, bracket, brace⟩ := different
      rw [← toList_toString_ofNat] at written
      exact .of_atom written quote bracket brace same read
  | negSucc number =>
      exact .of_atom (toList_toString_negSucc number) (by decide) (by decide) (by decide) same read

theorem readsBack_str (style : Style) (text : String) (levels : Nat) :
    ReadsBack style (str text) levels := by
  intro fuel rest enough _
  have escaped := length_le_escaped style.asciiOnly text.toList
  rw [writeList, quoteList, List.length_cons, List.length_append] at enough
  obtain ⟨less, rfl⟩ := Nat.exists_eq_succ_of_ne_zero (Nat.ne_of_gt (by omega : 0 < fuel))
  have read := readString_quoted style.asciiOnly text.toList rest less (by omega)
  rw [writeList, quoteList, List.cons_append, List.append_assoc, List.singleton_append, readValue,
    read]
  simp only [expect, ok_bind, String.ofList_toList]
  rfl

/-- Every plain value is read back from its text. -/
theorem Plain.readsBack {style : Style} (regular : style.Regular) {value : Json} {levels : Nat}
    (plain : value.Plain levels) : ReadsBack style value levels := by
  induction plain with
  | null =>
      exact .of_atom rfl (by decide) (by decide) (by decide) (fun _ => nofun) fun _ _ => rfl
  | bool value =>
      cases value with
      | true =>
          exact .of_atom rfl (by decide) (by decide) (by decide) (fun _ => nofun) fun _ _ => rfl
      | false =>
          exact .of_atom rfl (by decide) (by decide) (by decide) (fun _ => nofun) fun _ _ => rfl
  | int value convertible => exact readsBack_int style convertible
  | str text => exact readsBack_str style text _
  | arr items inner ih =>
      exact readsBack_arr regular items fun item member => ⟨inner item member, ih item member⟩
  | obj fields distinct inner ih =>
      exact readsBack_obj regular fields distinct fun field member =>
        ⟨inner field member, ih field member⟩

/-- A plain value is read back from its text. -/
theorem read?_write {style : Style} (regular : style.Regular) {value : Json}
    (plain : value.Plain nestingLimit) : read? (value.write style) = some value := by
  obtain ⟨c, later, written, solid, _⟩ := startsValue_writeList style plain
  have read := plain.readsBack regular (2 * (writeList style value).length + 2) [] (by omega)
    endsNumber_nil
  rw [List.append_nil] at read
  have started : skipGap (writeList style value) = writeList style value := by
    rw [written]
    exact skipGap_solid later solid
  rw [read?_eq_some, Json.read, write, String.toList_ofList, readList_eq_ok, started]
  exact ⟨[], read, rfl⟩

end OtcDesk.Json
