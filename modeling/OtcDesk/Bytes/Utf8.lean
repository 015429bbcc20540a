namespace OtcDesk

/-- A string of bytes. -/
abbrev Bytes := List UInt8

namespace Utf8

/-- The continuation byte that carries six bits. -/
def tail (bits : Nat) : UInt8 := UInt8.ofNat (0x80 + bits % 64)

/-- A character in one to four bytes. -/
def encodeChar (c : Char) : Bytes :=
  let n := c.toNat
  if n < 0x80 then [UInt8.ofNat n]
  else if n < 0x800 then [UInt8.ofNat (0xc0 + n / 64), tail n]
  else if n < 0x10000 then [UInt8.ofNat (0xe0 + n / 4096), tail (n / 64), tail n]
  else [UInt8.ofNat (0xf0 + n / 262144), tail (n / 4096), tail (n / 64), tail n]

/-- The bytes of a text. -/
def encode (text : String) : Bytes := text.toList.flatMap encodeChar

/-- What a lead byte fixes: how many bytes follow, the range of the next, and its own bits. -/
def lead? (b : Nat) : Option (Nat × Nat × Nat × Nat) :=
  if b < 0x80 then some (0, 0, 0, b)
  else if b < 0xc2 then none
  else if b < 0xe0 then some (1, 0x80, 0xbf, b - 0xc0)
  else if b = 0xe0 then some (2, 0xa0, 0xbf, 0)
  else if b = 0xed then some (2, 0x80, 0x9f, 0xd)
  else if b < 0xf0 then some (2, 0x80, 0xbf, b - 0xe0)
  else if b = 0xf0 then some (3, 0x90, 0xbf, 0)
  else if b < 0xf4 then some (3, 0x80, 0xbf, b - 0xf0)
  else if b = 0xf4 then some (3, 0x80, 0x8f, 4)
  else none

/-- The continuation bytes are taken as long as they fit. -/
def continued : Nat → Nat → Nat → Nat → Bytes → Option Nat × Bytes
  | 0, _, _, bits, rest => (some bits, rest)
  | _ + 1, _, _, _, [] => (none, [])
  | count + 1, low, high, bits, b :: rest =>
    if low ≤ b.toNat && b.toNat ≤ high then
      continued count 0x80 0xbf (64 * bits + b.toNat % 64) rest
    else (none, b :: rest)

theorem continued_length_le (count low high bits : Nat) (bytes : Bytes) :
    (continued count low high bits bytes).2.length ≤ bytes.length := by
  induction bytes generalizing count low high bits with
  | nil => cases count <;> simp [continued]
  | cons b rest ih =>
      cases count with
      | zero => simp [continued]
      | succ count =>
          unfold continued
          split
          · exact Nat.le_succ_of_le (ih ..)
          · exact Nat.le_refl _

/-- The first unit of a byte string that starts with `b`, and what follows the unit. -/
def unit (b : UInt8) (rest : Bytes) : Option Char × Bytes :=
  match lead? b.toNat with
  | none => (none, rest)
  | some (count, low, high, bits) =>
    let (code?, rest) := continued count low high bits rest
    (code?.map Char.ofNat, rest)

theorem unit_length_le (b : UInt8) (rest : Bytes) : (unit b rest).2.length ≤ rest.length := by
  unfold unit
  split
  · exact Nat.le_refl _
  · exact continued_length_le ..

/-- The units of a byte string, with nothing for a broken start. -/
def units : Bytes → List (Option Char)
  | [] => []
  | b :: rest => (unit b rest).1 :: units (unit b rest).2
termination_by bytes => bytes.length
decreasing_by exact Nat.lt_succ_of_le (unit_length_le ..)

/-- The text that the bytes encode, if they encode one. -/
def decode? (bytes : Bytes) : Option String := ((units bytes).mapM id).map String.ofList

/-- The text of the bytes, with a replacement character for each broken start. -/
def decodeLossy (bytes : Bytes) : String :=
  String.ofList ((units bytes).map (·.getD '\ufffd'))

end Utf8

end OtcDesk
