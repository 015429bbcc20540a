import OtcDesk.Number.Double
import OtcDesk.Table

namespace OtcDesk

/-- A JSON value. -/
inductive Json where
  | null
  | bool (value : Bool)
  | int (value : Int)
  | float (value : Double)
  | str (text : String)
  | arr (items : List Json)
  | obj (fields : List (String × Json))
  deriving Repr, Inhabited

namespace Json

/-- Null, false, zero and what is empty count as absent; every other value counts as given. -/
def isGiven : Json → Bool
  | null => false
  | bool value => value
  | int value => value != 0
  | float value => !value.isZero
  | str text => !text.isEmpty
  | arr items => !items.isEmpty
  | obj fields => !fields.isEmpty

/-- The value, if it counts as given. -/
def given? (value : Json) : Option Json := if value.isGiven then some value else none

/-- A text or nothing, as a value. -/
def ofText? : Option String → Json
  | some text => str text
  | none => null

end Json

end OtcDesk
