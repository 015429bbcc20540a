import OtcDesk.Json.Body
import OtcDesk.Json.Field
import OtcDesk.Proofs.Json.Objects
import OtcDesk.Proofs.Number.Double

namespace OtcDesk.Json

/-- The integer that a value denotes, if it denotes one, can be converted. -/
def IsBounded (value : Json) : Prop :=
  ∀ whole, value.toInt = .ok whole → Text.isConvertible whole = true

theorem isBounded_int {number : Int} (convertible : Text.isConvertible number = true) :
    (int number).IsBounded := by
  intro whole found
  rwa [← Except.ok.inj found]

theorem isBounded_float {number : Double} (inRange : number.InRange) :
    (float number).IsBounded := by
  intro whole found
  cases number with
  | nan => cases found
  | infinite negative => cases found
  | finite negative significand exponent => exact inRange whole (congrArg some (Except.ok.inj found))

theorem isBounded_bool (value : Bool) : (bool value).IsBounded := by
  intro whole found
  obtain rfl := Except.ok.inj found
  cases value <;> decide

theorem isBounded_str (text : String) : (str text).IsBounded := by
  intro whole found
  simp only [toInt] at found
  split at found
  · rename_i number read
    rw [← Except.ok.inj found]
    exact Text.isConvertible_of_integer? read
  · cases found

theorem isBounded_arr (items : List Json) : (arr items).IsBounded := nofun

theorem isBounded_obj (fields : List (String × Json)) : (obj fields).IsBounded := nofun

theorem isBounded_of_readUnsigned {negative : Bool} {text rest : List Char} {value : Json}
    (read : readUnsigned negative text = some (value, rest))
    (convertible : ∀ number, value = int number → Text.isConvertible number = true) :
    value.IsBounded := by
  simp only [readUnsigned, Option.bind_eq_bind, Option.bind_eq_some_iff] at read
  obtain ⟨whole, _, read⟩ := read
  split at read
  · cases read
    exact isBounded_float (Double.inRange_ofDecimal _ _ _)
  · split at read
    · cases read
      exact isBounded_int (convertible _ rfl)
    · cases read
      exact isBounded_float (Double.inRange_ofDecimal _ _ _)

/-- A scalar that is read is bounded. -/
theorem isBounded_of_readScalar {text rest : List Char} {value : Json}
    (found : readScalar text = .ok (value, rest)) : value.IsBounded := by
  obtain ⟨read, convertible⟩ := readScalar_eq_ok.mp found
  unfold readAtom at read
  split at read
  case h_1 =>
    obtain ⟨_, _, ⟨⟩⟩ := Option.map_eq_some_iff.mp read
    exact nofun
  case h_2 =>
    obtain ⟨_, _, ⟨⟩⟩ := Option.map_eq_some_iff.mp read
    exact isBounded_bool true
  case h_3 =>
    obtain ⟨_, _, ⟨⟩⟩ := Option.map_eq_some_iff.mp read
    exact isBounded_bool false
  case h_4 =>
    obtain ⟨_, _, ⟨⟩⟩ := Option.map_eq_some_iff.mp read
    exact isBounded_float Double.inRange_nan
  case h_5 =>
    obtain ⟨_, _, ⟨⟩⟩ := Option.map_eq_some_iff.mp read
    exact isBounded_float (Double.inRange_infinite false)
  case h_6 =>
    split at read
    · cases read
      exact isBounded_float (Double.inRange_infinite true)
    · exact isBounded_of_readUnsigned read convertible
  case h_7 => exact isBounded_of_readUnsigned read convertible

/-- A value that is read is bounded. -/
theorem isBounded_of_readValue {fuel levels : Nat} {text rest : List Char} {value : Json}
    (read : readValue fuel levels text = .ok (value, rest)) : value.IsBounded := by
  unfold readValue at read
  split at read
  · cases read
  · obtain ⟨found, _, same⟩ := bind_eq_ok.mp read
    cases same
    exact isBounded_str _
  · obtain ⟨left, _, read⟩ := enter_eq_ok.mp read
    split at read
    · cases read
      exact isBounded_arr _
    · obtain ⟨found, _, same⟩ := bind_eq_ok.mp read
      cases same
      exact isBounded_arr _
  · obtain ⟨left, _, read⟩ := enter_eq_ok.mp read
    split at read
    · cases read
      exact isBounded_obj _
    · obtain ⟨found, _, same⟩ := bind_eq_ok.mp read
      cases same
      exact isBounded_obj _
  · exact isBounded_of_readScalar read

/-- The fields of an object that is read are bounded. -/
theorem isBounded_of_readFields (fuel : Nat) :
    ∀ {levels : Nat} {text rest : List Char} {fields : List (String × Json)},
      readFields fuel levels text = .ok (fields, rest) → ∀ field ∈ fields, field.2.IsBounded := by
  induction fuel with
  | zero => exact nofun
  | succ fuel ih =>
      intro levels text rest fields read
      unfold readFields at read
      split at read
      case h_1 later => cases later
      case h_3 => cases read
      case h_2 less _ _ same =>
        obtain rfl := Nat.succ.inj same
        obtain ⟨⟨key, afterKey⟩, _, read⟩ := bind_eq_ok.mp read
        dsimp only at read
        split at read
        case h_2 => cases read
        case h_1 =>
          obtain ⟨⟨value, after⟩, found, read⟩ := bind_eq_ok.mp read
          have bounded := isBounded_of_readValue found
          dsimp only at read
          split at read
          case h_1 =>
            cases read
            exact List.forall_mem_singleton.mpr bounded
          case h_2 =>
            obtain ⟨⟨others, _⟩, more, same⟩ := bind_eq_ok.mp read
            cases same
            exact List.forall_mem_cons.mpr ⟨bounded, ih more⟩
          case h_3 => cases read

theorem isBounded_of_readPairs {fuel levels : Nat} {text rest : List Char}
    {pairs : List (String × Json)} (read : readPairs fuel levels text = .ok (pairs, rest)) :
    ∀ pair ∈ pairs, pair.2.IsBounded := by
  unfold readPairs at read
  split at read
  · obtain ⟨left, _, read⟩ := enter_eq_ok.mp read
    unfold readOpened at read
    split at read
    · cases read
      exact nofun
    · exact isBounded_of_readFields fuel read
  · cases read

/-- The value under a key of an object that is read is bounded. -/
theorem isBounded_of_readList {text : List Char} {fields : List (String × Json)}
    (read : readList text = .ok (obj fields)) {key : String} {value : Json}
    (here : Table.get? key fields = some value) : value.IsBounded := by
  obtain ⟨rest, found, _⟩ := readList_eq_ok.mp read
  obtain ⟨pairs, opened, rfl⟩ := readValue_obj_iff.mp found
  rw [Table.get?_ofList] at here
  obtain ⟨pair, last, rfl⟩ := Option.map_eq_some_iff.mp here
  exact isBounded_of_readPairs opened pair
    (List.mem_reverse.mp (List.mem_of_find?_eq_some last))

/-- So is the value under a key of an object that is read from a body. -/
theorem isBounded_of_readBody {body : Bytes} {fields : List (String × Json)}
    (read : readBody body = .ok (obj fields)) {key : String} {value : Json}
    (here : Table.get? key fields = some value) : value.IsBounded := by
  obtain ⟨text, _, found⟩ := bind_eq_ok.mp read
  exact isBounded_of_readList found here

end OtcDesk.Json
