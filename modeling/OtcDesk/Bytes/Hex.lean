import OtcDesk.Bytes.Utf8
import OtcDesk.Text.Blank
import OtcDesk.Text.Quoted

namespace OtcDesk.Hex

/-- The two digits of a byte. -/
def encodeByte (b : UInt8) : List Char := Text.hexDigits 2 b.toNat

/-- The bytes in digits. -/
def encode (bytes : Bytes) : String := String.ofList (bytes.flatMap encodeByte)

/-- The value of a hexadecimal digit of either case. -/
def digit? (c : Char) : Option Nat :=
  let n := c.toNat
  if 0x30 ≤ n && n ≤ 0x39 then some (n - 0x30)
  else if 0x61 ≤ n && n ≤ 0x66 then some (n - 0x57)
  else if 0x41 ≤ n && n ≤ 0x46 then some (n - 0x37)
  else none

/-- The bytes of the digits from a position on, or where the first misfit is. -/
def decodeFrom (position : Nat) : List Char → Except Nat Bytes
  | [] => .ok []
  | [high] =>
    if Text.isAsciiBlank high then .ok []
    else .error (if (digit? high).isSome then position + 1 else position)
  | high :: low :: rest =>
    if Text.isAsciiBlank high then decodeFrom (position + 1) (low :: rest)
    else
      match digit? high, digit? low with
      | none, _ => .error position
      | some _, none => .error (position + 1)
      | some h, some l => (UInt8.ofNat (16 * h + l) :: ·) <$> decodeFrom (position + 2) rest

/-- The bytes of a text; a character beyond ASCII fails at its place, whatever stands before it. -/
def decode (text : String) : Except Nat Bytes :=
  match text.toList.findIdx? (0x80 ≤ ·.toNat) with
  | some position => .error position
  | none => decodeFrom 0 text.toList

/-- What is wrong with a text that fails at a position. -/
def complaint (position : Nat) : String :=
  "non-hexadecimal number found in fromhex() arg at position " ++ toString position

end OtcDesk.Hex
