import OtcDesk.Text.Case
import OtcDesk.Text.PrintableTable

namespace OtcDesk.Text

/-- A character is printable when it shows as itself. -/
def isPrintable (c : Char) : Bool := inRanges printableRanges c.toNat

/-- The lower-case digit of a value below sixteen. -/
def hexDigit (value : Nat) : Char := Char.ofNat (if value < 10 then 0x30 + value else 0x57 + value)

/-- A number in a fixed count of hexadecimal digits, highest first. -/
def hexDigits : Nat → Nat → List Char
  | 0, _ => []
  | count + 1, value => hexDigits count (value / 16) ++ [hexDigit (value % 16)]

/-- A character inside quotation marks of the kind `mark`. -/
def quotedChar (mark : Char) (c : Char) : List Char :=
  if c = mark || c = '\\' then ['\\', c]
  else if c = '\n' then ['\\', 'n']
  else if c = '\r' then ['\\', 'r']
  else if c = '\t' then ['\\', 't']
  else if isPrintable c then [c]
  else if c.toNat < 0x100 then '\\' :: 'x' :: hexDigits 2 c.toNat
  else if c.toNat < 0x10000 then '\\' :: 'u' :: hexDigits 4 c.toNat
  else '\\' :: 'U' :: hexDigits 8 c.toNat

/-- Double marks are used only around a text that has a single mark and no double one. -/
def quoteMark (text : List Char) : Char :=
  if text.contains '\'' && !text.contains '"' then '"' else '\''

/-- The text between quotation marks. -/
def quoted (text : String) : String :=
  let mark := quoteMark text.toList
  String.ofList (mark :: (text.toList.flatMap (quotedChar mark) ++ [mark]))

end OtcDesk.Text
