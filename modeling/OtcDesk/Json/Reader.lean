import OtcDesk.Bytes.Hex
import OtcDesk.Fault
import OtcDesk.Json.Value
import OtcDesk.Text.Integer

namespace OtcDesk.Json

/-- White space between tokens. -/
def isGap (c : Char) : Bool := c == ' ' || c == '\t' || c == '\n' || c == '\r'

/-- The text after white space. -/
def skipGap (text : List Char) : List Char := text.dropWhile isGap

/-- The four digits of an escape as a number, and what follows them. -/
def readUnit : List Char → Option (Nat × List Char)
  | a :: b :: c :: d :: rest => do
    let a ← Hex.digit? a
    let b ← Hex.digit? b
    let c ← Hex.digit? c
    let d ← Hex.digit? d
    return (((a * 16 + b) * 16 + c) * 16 + d, rest)
  | _ => none

/-- A number is the first half of a surrogate pair. -/
def isHighSurrogate (unit : Nat) : Bool := 0xd800 ≤ unit && unit < 0xdc00

/-- A number is the second half of a surrogate pair. -/
def isLowSurrogate (unit : Nat) : Bool := 0xdc00 ≤ unit && unit < 0xe000

/-- The last code point, which is assigned to no character, stands for half a pair on its own. -/
def halfPair : Char := Char.ofNat 0x10ffff

/-- The character of a single unit. -/
def unitChar (unit : Nat) : Char :=
  if isHighSurrogate unit || isLowSurrogate unit then halfPair else Char.ofNat unit

/-- The second half of a pair, if the text goes on with one. -/
def readLowSurrogate? : List Char → Option (Nat × List Char)
  | '\\' :: 'u' :: rest => do
    let (low, rest) ← readUnit rest
    if isLowSurrogate low then some (low, rest) else none
  | _ => none

/-- The character of a numeric escape, and what follows it. -/
def readEscapedUnit (text : List Char) : Option (Char × List Char) := do
  let (unit, rest) ← readUnit text
  if isHighSurrogate unit then
    match readLowSurrogate? rest with
    | some (low, rest) =>
      return (Char.ofNat (0x10000 + (unit - 0xd800) * 0x400 + (low - 0xdc00)), rest)
    | none => return (unitChar unit, rest)
  else return (unitChar unit, rest)

/-- The character of an escape, and what follows it. -/
def readEscape : List Char → Option (Char × List Char)
  | '"' :: rest => some ('"', rest)
  | '\\' :: rest => some ('\\', rest)
  | '/' :: rest => some ('/', rest)
  | 'b' :: rest => some ('\x08', rest)
  | 'f' :: rest => some ('\x0c', rest)
  | 'n' :: rest => some ('\n', rest)
  | 'r' :: rest => some ('\r', rest)
  | 't' :: rest => some ('\t', rest)
  | 'u' :: rest => readEscapedUnit rest
  | _ => none

/-- The characters of a string after its opening mark, and what follows the closing one. -/
def readString : Nat → List Char → Option (List Char × List Char)
  | 0, _ => none
  | _ + 1, [] => none
  | fuel + 1, c :: rest =>
    if c = '"' then some ([], rest)
    else if c = '\\' then do
      let (c, rest) ← readEscape rest
      let (text, rest) ← readString fuel rest
      return (c :: text, rest)
    else if c.toNat < 0x20 then none
    else do
      let (text, rest) ← readString fuel rest
      return (c :: text, rest)

/-- The ASCII digits at the start of the text, and what follows them. -/
def splitDigits (text : List Char) : List Char × List Char := text.span Char.isDigit

/-- The number that ASCII digits denote. -/
def ofDigitChars (digits : List Char) : Nat := Text.ofDigits (digits.map fun c => c.toNat - 0x30)

/-- The whole part of a number: a zero alone, or digits that do not start with zero. -/
def readWhole : List Char → Option (List Char × List Char)
  | '0' :: rest => some (['0'], rest)
  | text =>
    let (digits, rest) := splitDigits text
    if digits.isEmpty then none else some (digits, rest)

/-- The digits after the point, if the text goes on with any. -/
def readFraction : List Char → List Char × List Char
  | '.' :: rest =>
    let (digits, after) := splitDigits rest
    if digits.isEmpty then ([], '.' :: rest) else (digits, after)
  | text => ([], text)

/-- The exponent, if the text goes on with one. -/
def readExponent : List Char → Option (Int × List Char)
  | [] => none
  | mark :: rest =>
    if mark = 'e' || mark = 'E' then
      let (negative, body) := Text.splitSign rest
      let (digits, after) := splitDigits body
      let magnitude : Int := ofDigitChars digits
      if digits.isEmpty then none else some (if negative then -magnitude else magnitude, after)
    else none

/-- A number without its sign, which is a double if it has a point or an exponent. -/
def readUnsigned (negative : Bool) (text : List Char) : Option (Json × List Char) := do
  let (whole, rest) ← readWhole text
  let (fraction, rest) := readFraction rest
  let mantissa := ofDigitChars (whole ++ fraction)
  match readExponent rest with
  | some (exponent, rest) =>
    return (float (Double.ofDecimal negative mantissa (exponent - fraction.length)), rest)
  | none =>
    if fraction.isEmpty then
      return (int (if negative then -(mantissa : Int) else mantissa), rest)
    else return (float (Double.ofDecimal negative mantissa (-fraction.length)), rest)

/-- The text after a name, if the text starts with it. -/
def afterName? (name : String) (text : List Char) : Option (List Char) :=
  if name.toList.isPrefixOf text then some (text.drop name.length) else none

/-- A value that is not a string, a list or an object, and what follows it. -/
def readAtom (text : List Char) : Option (Json × List Char) :=
  match text with
  | 'n' :: _ => (afterName? "null" text).map (null, ·)
  | 't' :: _ => (afterName? "true" text).map (bool true, ·)
  | 'f' :: _ => (afterName? "false" text).map (bool false, ·)
  | 'N' :: _ => (afterName? "NaN" text).map (float .nan, ·)
  | 'I' :: _ => (afterName? "Infinity" text).map (float (.infinite false), ·)
  | '-' :: rest =>
    match afterName? "Infinity" rest with
    | some rest => some (float (.infinite true), rest)
    | none => readUnsigned true rest
  | _ => readUnsigned false text

/-- Why a text is not read. -/
inductive ReadFault where
  /-- It is not JSON. -/
  | malformed
  /-- It is nested too deep. -/
  | tooDeep
  /-- An integer has too many digits. -/
  | tooLong
  deriving DecidableEq, Repr

/-- The fault of a text that is not read. -/
def ReadFault.fault : ReadFault → Fault
  | malformed => ⟨.badValue, "the text is not JSON"⟩
  | tooDeep => ⟨.tooDeep, "the text is nested too deep"⟩
  | tooLong => ⟨.badValue, "an integer has too many digits"⟩

/-- What was read, unless the text is malformed there. -/
def expect {α : Type} : Option α → Except ReadFault α
  | some read => .ok read
  | none => .error .malformed

/-- The levels of nesting that fit on the interpreter's stack above the frames in use. -/
def nestingLimit : Nat := 970

/-- A level is entered, if one is left. -/
def enter {α : Type} (levels : Nat) (read : Nat → Except ReadFault α) : Except ReadFault α :=
  match levels with
  | 0 => .error .tooDeep
  | levels + 1 => read levels

/-- An atom at the start of the text, unless it is an integer of too many digits. -/
def readScalar (text : List Char) : Except ReadFault (Json × List Char) :=
  match readAtom text with
  | some (int value, rest) =>
    if Text.isConvertible value then .ok (int value, rest) else .error .tooLong
  | read => expect read

mutual

/-- A value at the start of the text, within the levels left, and what follows it. -/
def readValue : Nat → Nat → List Char → Except ReadFault (Json × List Char)
  | 0, _, _ => .error .malformed
  | fuel + 1, _, '"' :: rest => do
    let (text, rest) ← expect (readString fuel rest)
    return (str (String.ofList text), rest)
  | fuel + 1, levels, '[' :: rest =>
    enter levels fun levels =>
      match skipGap rest with
      | ']' :: rest => .ok (arr [], rest)
      | rest => do
        let (items, rest) ← readItems fuel levels rest
        return (arr items, rest)
  | fuel + 1, levels, '\x7b' :: rest =>
    enter levels fun levels =>
      match skipGap rest with
      | '\x7d' :: rest => .ok (obj [], rest)
      | rest => do
        let (fields, rest) ← readFields fuel levels rest
        return (obj (Table.ofList fields), rest)
  | _ + 1, _, text => readScalar text

/-- The items of a list up to its closing bracket, and what follows it. -/
def readItems : Nat → Nat → List Char → Except ReadFault (List Json × List Char)
  | 0, _, _ => .error .malformed
  | fuel + 1, levels, text => do
    let (item, rest) ← readValue fuel levels text
    match skipGap rest with
    | ']' :: rest => return ([item], rest)
    | ',' :: rest => do
      let (items, rest) ← readItems fuel levels (skipGap rest)
      return (item :: items, rest)
    | _ => .error .malformed

/-- The fields of an object up to its closing brace, and what follows it. -/
def readFields : Nat → Nat → List Char → Except ReadFault (List (String × Json) × List Char)
  | 0, _, _ => .error .malformed
  | fuel + 1, levels, '"' :: text => do
    let (key, rest) ← expect (readString fuel text)
    match skipGap rest with
    | ':' :: rest => do
      let (value, rest) ← readValue fuel levels (skipGap rest)
      match skipGap rest with
      | '\x7d' :: rest => return ([(String.ofList key, value)], rest)
      | ',' :: rest => do
        let (fields, rest) ← readFields fuel levels (skipGap rest)
        return ((String.ofList key, value) :: fields, rest)
      | _ => .error .malformed
    | _ => .error .malformed
  | _ + 1, _, _ => .error .malformed

end

/-- The value of a list of characters, of which each takes the reader at most two levels deep. -/
def readList (text : List Char) : Except ReadFault Json := do
  let (value, rest) ← readValue (2 * text.length + 2) nestingLimit (skipGap text)
  if (skipGap rest).isEmpty then return value else .error .malformed

/-- The value that a JSON text denotes, or why it is not read. -/
def read (text : String) : Except ReadFault Json := readList text.toList

/-- The value that a JSON text denotes, if it is read. -/
def read? (text : String) : Option Json := (read text).toOption

end OtcDesk.Json
