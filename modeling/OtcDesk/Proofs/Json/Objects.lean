import OtcDesk.Json.Reader
import OtcDesk.Proofs.Except
import OtcDesk.Proofs.Table

namespace OtcDesk.Json

theorem skipGap_solid {c : Char} (later : List Char) (solid : isGap c = false) :
    skipGap (c :: later) = c :: later := by
  simp [skipGap, solid]

/-- What is expected was there. -/
theorem expect_eq_ok {α : Type} {found : Option α} {value : α} :
    expect found = .ok value ↔ found = some value := by
  cases found with
  | none => exact ⟨nofun, nofun⟩
  | some other => simp [expect]

theorem enter_eq_ok {α : Type} {levels : Nat} {inner : Nat → Except ReadFault α} {value : α} :
    enter levels inner = .ok value ↔ ∃ left, levels = left + 1 ∧ inner left = .ok value := by
  cases levels with
  | zero => simp [enter]
  | succ left => simp [enter]

/-- A scalar is an atom, and one that can be converted if it is an integer. -/
theorem readScalar_eq_ok {text rest : List Char} {value : Json} :
    readScalar text = .ok (value, rest) ↔
      readAtom text = some (value, rest) ∧
        ∀ number, value = int number → Text.isConvertible number = true := by
  unfold readScalar
  split
  · rename_i number after found
    split
    · rename_i convertible
      rw [found]
      constructor
      · rintro ⟨⟩
        refine ⟨rfl, ?_⟩
        rintro _ ⟨⟩
        exact convertible
      · rintro ⟨⟨⟩, -⟩
        rfl
    · rename_i inconvertible
      rw [found]
      refine ⟨nofun, ?_⟩
      rintro ⟨⟨⟩, convertible⟩
      exact absurd (convertible number rfl) inconvertible
  · rename_i other
    rw [expect_eq_ok]
    refine ⟨fun found => ⟨found, ?_⟩, And.left⟩
    rintro number rfl
    exact (other number rest found).elim

theorem readUnsigned_ne_obj (negative : Bool) (text rest : List Char)
    (fields : List (String × Json)) : readUnsigned negative text ≠ some (obj fields, rest) := by
  intro read
  simp only [readUnsigned, Option.bind_eq_bind, Option.bind_eq_some_iff] at read
  obtain ⟨whole, _, read⟩ := read
  split at read
  · cases read
  · split at read
    · cases read
    · cases read

/-- An atom is no object. -/
theorem readAtom_ne_obj (text rest : List Char) (fields : List (String × Json)) :
    readAtom text ≠ some (obj fields, rest) := by
  intro read
  unfold readAtom at read
  split at read
  case h_6 =>
    split at read
    · cases read
    · exact readUnsigned_ne_obj _ _ _ _ read
  case h_7 => exact readUnsigned_ne_obj _ _ _ _ read
  all_goals
    obtain ⟨_, _, same⟩ := Option.map_eq_some_iff.mp read
    cases same

/-- The fields of an object after its opening brace, and what follows it. -/
def readOpened (fuel levels : Nat) :
    List Char → Except ReadFault (List (String × Json) × List Char)
  | '\x7d' :: rest => .ok ([], rest)
  | text => readFields fuel levels text

/-- The fields of an object as they stand at the start of the text, and what follows it. -/
def readPairs (fuel levels : Nat) :
    List Char → Except ReadFault (List (String × Json) × List Char)
  | '\x7b' :: rest => enter levels fun levels => readOpened fuel levels (skipGap rest)
  | _ => .error .malformed

/-- The fields of an object as they stand in a text, if the text is one. -/
def fieldPairs? (text : String) : Option (List (String × Json)) := do
  let (pairs, rest) ←
    (readPairs (2 * text.toList.length + 1) nestingLimit (skipGap text.toList)).toOption
  if (skipGap rest).isEmpty then some pairs else none

/-- After an opening brace an object is read from its fields. -/
theorem readValue_brace (fuel levels : Nat) (rest : List Char) :
    readValue (fuel + 1) levels ('\x7b' :: rest) =
      (readPairs fuel levels ('\x7b' :: rest)).map
        fun read => (obj (Table.ofList read.1), read.2) := by
  rw [readValue, readPairs]
  cases levels with
  | zero => rfl
  | succ left =>
      simp only [enter]
      generalize skipGap rest = body
      fun_cases readOpened fuel left body with
      | case1 after => rfl
      | case2 =>
          split
          · rename_i later unclosed
            exact (unclosed later rfl).elim
          · cases readFields fuel left body with
            | error fault => rfl
            | ok read => rfl

/-- What was read as an object begins with a brace. -/
theorem readValue_obj_brace {fuel levels : Nat} {text rest : List Char}
    {fields : List (String × Json)}
    (read : readValue fuel levels text = .ok (obj fields, rest)) :
    ∃ later, text = '\x7b' :: later := by
  unfold readValue at read
  split at read
  · cases read
  · obtain ⟨_, _, same⟩ := bind_eq_ok.mp read
    cases same
  · obtain ⟨_, _, read⟩ := enter_eq_ok.mp read
    split at read
    · cases read
    · obtain ⟨_, _, same⟩ := bind_eq_ok.mp read
      cases same
  · exact ⟨_, rfl⟩
  · exact absurd (readScalar_eq_ok.mp read).1 (readAtom_ne_obj _ _ _)

theorem readPairs_brace {fuel levels : Nat} {text : List Char}
    {read : List (String × Json) × List Char} (found : readPairs fuel levels text = .ok read) :
    ∃ later, text = '\x7b' :: later := by
  unfold readPairs at found
  split at found
  · exact ⟨_, rfl⟩
  · cases found

/-- An object is read from its fields, of which the last one counts for each key. -/
theorem readValue_obj_iff {fuel levels : Nat} {text rest : List Char}
    {fields : List (String × Json)} :
    readValue (fuel + 1) levels text = .ok (obj fields, rest) ↔
      ∃ pairs, readPairs fuel levels text = .ok (pairs, rest) ∧ fields = Table.ofList pairs := by
  constructor
  · intro read
    obtain ⟨later, rfl⟩ := readValue_obj_brace read
    rw [readValue_brace] at read
    obtain ⟨⟨pairs, after⟩, found, same⟩ := map_eq_ok.mp read
    cases same
    exact ⟨pairs, found, rfl⟩
  · rintro ⟨pairs, found, rfl⟩
    obtain ⟨later, rfl⟩ := readPairs_brace found
    rw [readValue_brace, found]
    rfl

theorem read?_eq_some {text : String} {value : Json} :
    read? text = some value ↔ read text = .ok value := toOption_eq_some

/-- A text is read up to its end. -/
theorem readList_eq_ok {text : List Char} {value : Json} :
    readList text = .ok value ↔ ∃ rest,
      readValue (2 * text.length + 2) nestingLimit (skipGap text) = .ok (value, rest) ∧
        (skipGap rest).isEmpty = true := by
  rw [readList, bind_eq_ok]
  constructor
  · rintro ⟨⟨found, rest⟩, read, chosen⟩
    dsimp only at chosen
    split at chosen
    · rename_i blank
      cases chosen
      exact ⟨rest, read, blank⟩
    · cases chosen
  · rintro ⟨rest, read, blank⟩
    exact ⟨(value, rest), read, if_pos blank⟩

/-- A text is that of an object exactly if its fields can be read as they stand. -/
theorem read?_obj_iff {text : String} {fields : List (String × Json)} :
    read? text = some (obj fields) ↔
      ∃ pairs, fieldPairs? text = some pairs ∧ fields = Table.ofList pairs := by
  rw [read?_eq_some, read, readList_eq_ok]
  simp only [fieldPairs?, Option.bind_eq_bind, Option.bind_eq_some_iff, toOption_eq_some]
  constructor
  · rintro ⟨rest, read, blank⟩
    obtain ⟨pairs, found, same⟩ := readValue_obj_iff.mp read
    exact ⟨pairs, ⟨(pairs, rest), found, if_pos blank⟩, same⟩
  · rintro ⟨pairs, ⟨⟨found, rest⟩, read, chosen⟩, rfl⟩
    dsimp only at chosen
    split at chosen
    · rename_i blank
      cases chosen
      exact ⟨rest, readValue_obj_iff.mpr ⟨pairs, read, rfl⟩, blank⟩
    · cases chosen

/-- The keys of the object in a text are distinct. -/
theorem read?_obj_nodup {text : String} {fields : List (String × Json)}
    (read : read? text = some (obj fields)) : (Table.keys fields).Nodup := by
  obtain ⟨pairs, _, rfl⟩ := read?_obj_iff.mp read
  exact Table.nodup_ofList pairs

end OtcDesk.Json
