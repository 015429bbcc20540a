import OtcDesk.Number.Double
import OtcDesk.Text.Integer

namespace OtcDesk.Double

/-- The run of digits and underscores at the start of the text, and what follows it. -/
def splitRun (text : List Char) : List Char × List Char :=
  text.span fun c => c == '_' || (Text.digitValue? c).isSome

/-- The digits of a part of a number, where an empty part has none. -/
def partDigits? (part : List Char) : Option (List Nat) :=
  if part.isEmpty then some [] else Text.digitRun? part

/-- The exponent after its mark. -/
def exponent? : List Char → Option Int
  | [] => some 0
  | mark :: rest =>
    if mark = 'e' || mark = 'E' then do
      let (negative, body) := Text.splitSign rest
      let digits ← Text.digitRun? body
      let magnitude : Int := Text.ofDigits digits
      return if negative then -magnitude else magnitude
    else none

/-- The fraction after the point, if there is one, and what follows it. -/
def splitFraction : List Char → List Char × List Char
  | '.' :: rest => splitRun rest
  | text => ([], text)

/-- The double that an unsigned decimal denotes. -/
def unsigned? (negative : Bool) (text : List Char) : Option Double := do
  let (wholePart, rest) := splitRun text
  let (fractionPart, rest) := splitFraction rest
  let whole ← partDigits? wholePart
  let fraction ← partDigits? fractionPart
  let exponent ← exponent? rest
  if whole.isEmpty && fraction.isEmpty then none
  else some (ofDecimal negative (Text.ofDigits (whole ++ fraction)) (exponent - fraction.length))

/-- The double that a text denotes, if it denotes one. -/
def ofText? (text : String) : Option Double :=
  let (negative, body) := Text.splitSign (Text.trimWhere Text.isNumberBlank text.toList)
  let name := String.ofList (body.map Char.toLower)
  if name = "inf" || name = "infinity" then some (.infinite negative)
  else if name = "nan" then some .nan
  else unsigned? negative body

end OtcDesk.Double
