import OtcDesk.Json.Value
import OtcDesk.Number.Shortest
import OtcDesk.Text.Quoted

namespace OtcDesk.Json

mutual

/-- The text of a value inside another. -/
def innerText : Json → String
  | null => "None"
  | bool value => if value then "True" else "False"
  | int value => toString value
  | float value => value.text
  | str text => Text.quoted text
  | arr items => "[" ++ String.intercalate ", " (itemTexts items) ++ "]"
  | obj fields => "\x7b" ++ String.intercalate ", " (fieldTexts fields) ++ "\x7d"

/-- The texts of the items of a list. -/
def itemTexts : List Json → List String
  | [] => []
  | item :: rest => innerText item :: itemTexts rest

/-- The texts of the fields of an object. -/
def fieldTexts : List (String × Json) → List String
  | [] => []
  | (key, value) :: rest => (Text.quoted key ++ ": " ++ innerText value) :: fieldTexts rest

end

/-- The text of a value. -/
def text : Json → String
  | str text => text
  | value => value.innerText

end OtcDesk.Json
