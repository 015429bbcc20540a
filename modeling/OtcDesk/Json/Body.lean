import OtcDesk.Bytes.Utf8
import OtcDesk.Json.Reader

namespace OtcDesk.Json

/-- An encoding of text in bytes. -/
inductive Encoding where
  | utf8
  | utf8Marked
  | utf16 (bigEndian : Bool) (marked : Bool)
  | utf32 (bigEndian : Bool) (marked : Bool)
  deriving DecidableEq, Repr

/-- The encoding that the first bytes show: by a byte order mark, or else by where they are zero. -/
def Encoding.detect (body : Bytes) : Encoding :=
  if [0x00, 0x00, 0xfe, 0xff].isPrefixOf body then .utf32 true true
  else if [0xff, 0xfe, 0x00, 0x00].isPrefixOf body then .utf32 false true
  else if [0xfe, 0xff].isPrefixOf body then .utf16 true true
  else if [0xff, 0xfe].isPrefixOf body then .utf16 false true
  else if [0xef, 0xbb, 0xbf].isPrefixOf body then .utf8Marked
  else
    match body with
    | a :: b :: c :: d :: _ =>
      if a = 0 then if b = 0 then .utf32 true false else .utf16 true false
      else if b = 0 then if c ≠ 0 ∨ d ≠ 0 then .utf16 false false else .utf32 false false
      else .utf8
    | [a, b] =>
      if a = 0 then .utf16 true false else if b = 0 then .utf16 false false else .utf8
    | _ => .utf8

/-- The bytes in groups of two as numbers. -/
def pairs? (bigEndian : Bool) : Bytes → Option (List Nat)
  | [] => some []
  | a :: b :: rest =>
    let unit := if bigEndian then a.toNat * 256 + b.toNat else b.toNat * 256 + a.toNat
    (unit :: ·) <$> pairs? bigEndian rest
  | _ => none

/-- The bytes in groups of four as numbers. -/
def quads? (bigEndian : Bool) : Bytes → Option (List Nat)
  | [] => some []
  | a :: b :: c :: d :: rest =>
    let bytes := if bigEndian then [a, b, c, d] else [d, c, b, a]
    (bytes.foldl (fun code byte => code * 256 + byte.toNat) 0 :: ·) <$> quads? bigEndian rest
  | _ => none

/-- The code points of sixteen-bit units, where the two halves of a surrogate pair join. -/
def joinUnits : List Nat → List Nat
  | [] => []
  | [unit] => [unit]
  | high :: low :: rest =>
    if isHighSurrogate high && isLowSurrogate low then
      (0x10000 + (high - 0xd800) * 0x400 + (low - 0xdc00)) :: joinUnits rest
    else high :: joinUnits (low :: rest)

/-- Half a surrogate pair in three bytes, as a character would stand there, and what follows it. -/
def half? (b : UInt8) : Bytes → Option (Nat × Bytes)
  | x :: y :: rest =>
    if b.toNat = 0xed && 0xa0 ≤ x.toNat && x.toNat < 0xc0 && 0x80 ≤ y.toNat && y.toNat < 0xc0 then
      some (0xd000 + x.toNat % 64 * 64 + y.toNat % 64, rest)
    else none
  | _ => none

/-- The first code point of UTF-8 bytes that start with `b`, and what follows it. -/
def utf8Point (b : UInt8) (rest : Bytes) : Option Nat × Bytes :=
  match half? b rest with
  | some (half, later) => (some half, later)
  | none => ((Utf8.unit b rest).1.map Char.toNat, (Utf8.unit b rest).2)

theorem utf8Point_length_le (b : UInt8) (rest : Bytes) :
    (utf8Point b rest).2.length ≤ rest.length := by
  unfold utf8Point
  split
  · rename_i half later known
    unfold half? at known
    split at known
    · split at known
      · cases known
        simp only [List.length_cons]
        omega
      · cases known
    · cases known
  · exact Utf8.unit_length_le ..

/-- The code points of UTF-8 bytes, with nothing for a broken start. -/
def utf8Points : Bytes → List (Option Nat)
  | [] => []
  | b :: rest => (utf8Point b rest).1 :: utf8Points (utf8Point b rest).2
termination_by bytes => bytes.length
decreasing_by exact Nat.lt_succ_of_le (utf8Point_length_le ..)

/-- The code points of a body without its byte order mark. -/
def bodyPoints? (body : Bytes) : Option (List Nat) :=
  match Encoding.detect body with
  | .utf8 => (utf8Points body).mapM id
  | .utf8Marked => (utf8Points (body.drop 3)).mapM id
  | .utf16 bigEndian marked =>
    (pairs? bigEndian (if marked then body.drop 2 else body)).map joinUnits
  | .utf32 bigEndian marked =>
    (quads? bigEndian (if marked then body.drop 4 else body)).filter fun codes =>
      codes.all fun code => code < 0x110000

/-- The text of a body. -/
def bodyText? (body : Bytes) : Option (List Char) := (bodyPoints? body).map (·.map unitChar)

/-- The value that a body denotes, or why it is not read. -/
def readBody (body : Bytes) : Except ReadFault Json := (expect (bodyText? body)).bind readList

/-- The value that a body denotes, if it is read. -/
def readBody? (body : Bytes) : Option Json := (readBody body).toOption

end OtcDesk.Json
