import OtcDesk.Fault
import OtcDesk.Json.Text
import OtcDesk.Text.Integer

namespace OtcDesk.Json

/-- The fields of an object. -/
def fields : Json → Except Fault (Table Json)
  | obj fields => .ok fields
  | _ => .error ⟨.notAnObject, "the value is not an object"⟩

/-- The integer that a value denotes, without the fraction of a double. -/
def toInt : Json → Except Fault Int
  | bool value => .ok (if value then 1 else 0)
  | int value => .ok value
  | float .nan => .error ⟨.badValue, "not a number has no integer value"⟩
  | float value =>
    match value.truncate? with
    | some whole => .ok whole
    | none => .error ⟨.tooLarge, "an infinite number has no integer value"⟩
  | str text =>
    match Text.integer? text with
    | some value => .ok value
    | none => .error ⟨.badValue, "the text is not an integer: " ++ Text.quoted text⟩
  | null => .error ⟨.wrongShape, "null is not an integer"⟩
  | arr _ => .error ⟨.wrongShape, "a list is not an integer"⟩
  | obj _ => .error ⟨.wrongShape, "an object is not an integer"⟩

/-- The members of a value: its items, characters or keys. -/
def members : Json → Except Fault (List Json)
  | arr items => .ok items
  | str text => .ok (text.toList.map fun c => str (String.singleton c))
  | obj fields => .ok (fields.map fun field => str field.1)
  | _ => .error ⟨.wrongShape, "the value has no members"⟩

/-- The text of a field; a missing field is empty. -/
def textField (fields : Table Json) (key : String) : String :=
  ((fields.get? key).map text).getD ""

/-- The flag of a field; a missing field is not set. -/
def flagField (fields : Table Json) (key : String) : Bool :=
  ((fields.get? key).map isGiven).getD false

/-- The text of a value where null and the empty text stand for nothing. -/
def optionalText : Json → Option String
  | null => none
  | str text => if text.isEmpty then none else some text
  | value => some value.text

/-- The text of a field, where a missing field stands for nothing too. -/
def optionalTextField (fields : Table Json) (key : String) : Option String :=
  (fields.get? key).bind optionalText

/-- The integer of a field; what does not count as given is zero. -/
def integerField (fields : Table Json) (key : String) : Except Fault Int :=
  match (fields.get? key).bind given? with
  | some value => value.toInt
  | none => .ok 0

/-- The integer of a field, where a missing field and null stand for nothing. -/
def optionalIntegerField (fields : Table Json) (key : String) : Except Fault (Option Int) :=
  match fields.get? key with
  | none | some null => .ok none
  | some value => some <$> value.toInt

/-- The members of a field; what does not count as given has none. -/
def listField (fields : Table Json) (key : String) : Except Fault (List Json) :=
  match (fields.get? key).bind given? with
  | some value => value.members
  | none => .ok []

end OtcDesk.Json
