import OtcDesk.Bytes.Utf8

namespace OtcDesk.Base64

/-- The character of a value below 64. -/
def letter (value : Nat) : Char :=
  Char.ofNat <|
    if value < 26 then 0x41 + value
    else if value < 52 then 0x61 + (value - 26)
    else if value < 62 then 0x30 + (value - 52)
    else if value = 62 then 0x2b
    else 0x2f

/-- The value of a character of the alphabet. -/
def value? (c : Char) : Option Nat :=
  let n := c.toNat
  if 0x41 ≤ n && n ≤ 0x5a then some (n - 0x41)
  else if 0x61 ≤ n && n ≤ 0x7a then some (n - 0x61 + 26)
  else if 0x30 ≤ n && n ≤ 0x39 then some (n - 0x30 + 52)
  else if n = 0x2b then some 62
  else if n = 0x2f then some 63
  else none

/-- Three bytes become four characters; one or two bytes at the end are padded. -/
def encodeList : Bytes → List Char
  | [] => []
  | [a] => [letter (a.toNat / 4), letter (a.toNat % 4 * 16), '=', '=']
  | [a, b] =>
    [letter (a.toNat / 4), letter (a.toNat % 4 * 16 + b.toNat / 16), letter (b.toNat % 16 * 4), '=']
  | a :: b :: c :: rest =>
    letter (a.toNat / 4) :: letter (a.toNat % 4 * 16 + b.toNat / 16) ::
      letter (b.toNat % 16 * 4 + c.toNat / 64) :: letter (c.toNat % 64) :: encodeList rest

/-- The bytes in base64. -/
def encode (bytes : Bytes) : String := String.ofList (encodeList bytes)

/-- Why a text is not base64. -/
inductive Fault where
  | notAscii
  | leadingPadding
  | dataAfterPadding
  | badCharacter
  | brokenPadding
  | lonelyCharacter (count : Nat)
  | missingPadding
  deriving DecidableEq, Repr

/-- The words for a fault. -/
def Fault.message : Fault → String
  | .notAscii => "string argument should contain only ASCII characters"
  | .leadingPadding => "Leading padding not allowed"
  | .dataAfterPadding => "Excess data after padding"
  | .badCharacter => "Only base64 data is allowed"
  | .brokenPadding => "Discontinuous padding not allowed"
  | .lonelyCharacter count =>
    "Invalid base64-encoded string: number of data characters (" ++ toString count ++
      ") cannot be 1 more than a multiple of 4"
  | .missingPadding => "Incorrect padding"

/-- Where the reader is: its open group, the padding, and the count of data characters. -/
structure Place where
  group : List Nat := []
  pads : Nat := 0
  padded : Bool := false
  count : Nat := 0

/-- The bytes that an open group of two or three characters already fixes. -/
def partialBytes : List Nat → Bytes
  | [b, a] => [UInt8.ofNat (4 * a + b / 16)]
  | [c, b, a] => [UInt8.ofNat (4 * a + b / 16), UInt8.ofNat (b % 16 * 16 + c / 4)]
  | _ => []

/-- The bytes of the characters from a place on. -/
def decodeFrom (place : Place) : List Char → Except Fault Bytes
  | [] =>
    match place.group with
    | [] => .ok []
    | [_] => .error (.lonelyCharacter place.count)
    | _ => .error .missingPadding
  | c :: rest =>
    if c = '=' then
      if 2 ≤ place.group.length then
        if 4 ≤ place.group.length + place.pads + 1 then
          if rest.isEmpty then .ok (partialBytes place.group) else .error .dataAfterPadding
        else decodeFrom { place with pads := place.pads + 1, padded := true } rest
      else decodeFrom { place with padded := true } rest
    else
      match value? c with
      | none => .error .badCharacter
      | some d =>
        if place.padded then .error .brokenPadding
        else
          match place.group with
          | [c, b, a] =>
            ([UInt8.ofNat (4 * a + b / 16), UInt8.ofNat (b % 16 * 16 + c / 4),
              UInt8.ofNat (c % 4 * 64 + d)] ++ ·) <$>
              decodeFrom { place with group := [], pads := 0, count := place.count + 1 } rest
          | group =>
            decodeFrom { place with group := d :: group, pads := 0, count := place.count + 1 } rest

/-- The bytes that a text encodes. -/
def decode (text : String) : Except Fault Bytes :=
  if text.toList.any (0x80 ≤ ·.toNat) then .error .notAscii
  else if text.toList.head? = some '=' then .error .leadingPadding
  else decodeFrom {} text.toList

end OtcDesk.Base64
