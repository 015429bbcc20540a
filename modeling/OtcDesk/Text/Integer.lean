import OtcDesk.Text.Blank

namespace OtcDesk.Text

/-- These code points are the zeros of Unicode 14; each begins a run of ten digits. -/
def digitZeros : List Nat := [
  0x30, 0x660, 0x6f0, 0x7c0, 0x966, 0x9e6, 0xa66, 0xae6, 0xb66, 0xbe6, 0xc66, 0xce6, 0xd66, 0xde6,
  0xe50, 0xed0, 0xf20, 0x1040, 0x1090, 0x17e0, 0x1810, 0x1946, 0x19d0, 0x1a80, 0x1a90, 0x1b50,
  0x1bb0, 0x1c40, 0x1c50, 0xa620, 0xa8d0, 0xa900, 0xa9d0, 0xa9f0, 0xaa50, 0xabf0, 0xff10, 0x104a0,
  0x10d30, 0x11066, 0x110f0, 0x11136, 0x111d0, 0x112f0, 0x11450, 0x114d0, 0x11650, 0x116c0,
  0x11730, 0x118e0, 0x11950, 0x11c50, 0x11d50, 0x11da0, 0x16a60, 0x16ac0, 0x16b50, 0x1d7ce,
  0x1d7d8, 0x1d7e2, 0x1d7ec, 0x1d7f6, 0x1e140, 0x1e2f0, 0x1e950, 0x1fbf0]

/-- The value of a decimal digit of any script. -/
def digitValue? (c : Char) : Option Nat :=
  (digitZeros.find? fun first => first ≤ c.toNat && c.toNat < first + 10).map (c.toNat - ·)

/-- A number may be surrounded by blanks, but not by the information separators. -/
def isNumberBlank (c : Char) : Bool := isBlank c && !(0x1c ≤ c.toNat && c.toNat ≤ 0x1f)

/-- The digits of a run, where a single underscore may stand between two digits. -/
def digitRun? : List Char → Option (List Nat)
  | [] => none
  | [c] => (digitValue? c).map ([·])
  | c :: '_' :: rest => do
    let value ← digitValue? c
    let values ← digitRun? rest
    return value :: values
  | c :: rest => do
    let value ← digitValue? c
    let values ← digitRun? rest
    return value :: values

/-- The number that decimal digits denote, highest first. -/
def ofDigits (digits : List Nat) : Nat := digits.foldl (fun number digit => 10 * number + digit) 0

/-- A sign in front of a number: whether it is a minus, and what follows. -/
def splitSign : List Char → Bool × List Char
  | '-' :: rest => (true, rest)
  | '+' :: rest => (false, rest)
  | text => (false, text)

/-- The digits that the interpreter converts between integers and texts. -/
def digitLimit : Nat := 4300

/-- An integer can be converted into a text. -/
def isConvertible (value : Int) : Bool := (Nat.toDigits 10 value.natAbs).length ≤ digitLimit

/-- The integer that a text denotes, if it denotes one and can be converted. -/
def integer? (text : String) : Option Int := do
  let (negative, body) := splitSign (trimWhere isNumberBlank text.toList)
  let digits ← digitRun? body
  if digits.length ≤ digitLimit then
    some (if negative then -(ofDigits digits : Int) else ofDigits digits)
  else none

end OtcDesk.Text
