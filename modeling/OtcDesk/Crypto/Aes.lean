import OtcDesk.Bytes.Utf8

namespace OtcDesk.Aes

/-- A byte times the variable, modulo the field polynomial. -/
def double (b : UInt8) : UInt8 := (b <<< 1) ^^^ (if 0x80 ≤ b then 0x1b else 0)

/-- The product of two bytes in the field, over the lowest `count` bits of the second. -/
def product : Nat → UInt8 → UInt8 → UInt8
  | 0, _, _ => 0
  | count + 1, a, b => (if b &&& 1 = 1 then a else 0) ^^^ product count (double a) (b >>> 1)

/-- A byte to a power given in binary, lowest bit first. -/
def power (b : UInt8) : List Bool → UInt8
  | [] => 1
  | bit :: bits => product 8 (if bit then b else 1) (power (product 8 b b) bits)

/-- The inverse of a byte in the field, and zero for zero. -/
def inverse (b : UInt8) : UInt8 := power b [false, true, true, true, true, true, true, true]

/-- The byte turned left. -/
def turn (count : UInt8) (b : UInt8) : UInt8 := (b <<< count) ||| (b >>> (8 - count))

/-- The substitution of a byte: its inverse, folded over itself, and shifted by a constant. -/
def substitute (b : UInt8) : UInt8 :=
  let i := inverse b
  i ^^^ turn 1 i ^^^ turn 2 i ^^^ turn 3 i ^^^ turn 4 i ^^^ 0x63

/-- The substitutions of all bytes. -/
def substitutions : Array UInt8 := (Array.range 256).map fun n => substitute (UInt8.ofNat n)

/-- The substitution of a byte, looked up. -/
def sub (b : UInt8) : UInt8 := substitutions.getD b.toNat 0

/-- Two byte strings added bit by bit. -/
def add (left right : Bytes) : Bytes := List.zipWith (· ^^^ ·) left right

/-- The word that is added to the one eight places back. -/
def scheduleTerm (index : Nat) (constant : UInt8) (previous : Bytes) : Bytes :=
  if index % 8 = 0 then
    add ((previous.drop 1 ++ previous.take 1).map sub) [constant, 0, 0, 0]
  else if index % 8 = 4 then previous.map sub
  else previous

/-- The key schedule is extended by a word. -/
def extend (words : Array Bytes) (index : Nat) : Array Bytes :=
  let constant := Nat.repeat double (index / 8 - 1) 1
  words.push
    (add (words.getD (index - 8) []) (scheduleTerm index constant (words.getD (index - 1) [])))

/-- The sixty words of the key schedule. -/
def expand (key : Bytes) : Array Bytes :=
  let words := (List.range 8).map fun i => (key.drop (4 * i)).take 4
  ((List.range 52).map (· + 8)).foldl extend words.toArray

/-- The sixteen bytes of the schedule for a round. -/
def roundKey (words : Array Bytes) (round : Nat) : Bytes :=
  (List.range 4).flatMap fun i => words.getD (4 * round + i) []

/-- The rows are shifted: row `r` of the block moves left by `r` columns. -/
def shiftRows (block : Bytes) : Bytes :=
  [0, 5, 10, 15, 4, 9, 14, 3, 8, 13, 2, 7, 12, 1, 6, 11].map fun i => block.getD i 0

/-- The columns are mixed. -/
def mixColumns : Bytes → Bytes
  | a :: b :: c :: d :: rest =>
    (double a ^^^ double b ^^^ b ^^^ c ^^^ d) :: (a ^^^ double b ^^^ double c ^^^ c ^^^ d) ::
      (a ^^^ b ^^^ double c ^^^ double d ^^^ d) :: (double a ^^^ a ^^^ b ^^^ c ^^^ double d) ::
      mixColumns rest
  | rest => rest

/-- The cipher of a block under a key schedule. -/
def encryptWith (words : Array Bytes) (block : Bytes) : Bytes :=
  let start := add block (roundKey words 0)
  let middle := ((List.range 13).map (· + 1)).foldl
    (fun block round => add (mixColumns (shiftRows (block.map sub))) (roundKey words round)) start
  add (shiftRows (middle.map sub)) (roundKey words 14)

end OtcDesk.Aes
