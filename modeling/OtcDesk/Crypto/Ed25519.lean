import OtcDesk.Crypto.Sha512

namespace OtcDesk.Ed25519

/-- The prime of the coordinates. -/
def prime : Nat := Nat.pow 2 255 - 19

/-- The order of the base point. -/
def order : Nat := Nat.pow 2 252 + 27742317777372353535851937790883648493

/-- The constant of the curve. -/
def curveConstant : Nat := 0x52036cee2b6ffe738cc740797779e89800700a4d4141d8ab75eb4dca135978a3

/-- A square root of minus one. -/
def rootOfMinusOne : Nat := 0x2b8324804fc1df0b2b4d00993dfbd7a72f431806ad2fe478c4ee1b274a0ea0b0

/-- A number to a power modulo the prime; the count bounds the bits of the exponent. -/
def power : Nat → Nat → Nat → Nat
  | 0, _, _ => 1
  | count + 1, b, exponent =>
    let rest := power count (b * b % prime) (exponent / 2)
    if exponent % 2 = 1 then b * rest % prime else rest

/-- The inverse of a number modulo the prime. -/
def inverse (n : Nat) : Nat := power 256 n (prime - 2)

/-- The difference of two numbers below the prime. -/
def subtract (a b : Nat) : Nat := (a + prime - b) % prime

/-- A point in extended coordinates. -/
structure Point where
  x : Nat
  y : Nat
  z : Nat
  t : Nat
  deriving DecidableEq, Repr

namespace Point

/-- The neutral point. -/
def neutral : Point := ⟨0, 1, 1, 0⟩

/-- The base point. -/
def base : Point :=
  let x := 0x216936d3cd6e53fec0a4e231fdd6dc5c692cc7609525a7b2c9562d608f25d51a
  let y := 0x6666666666666666666666666666666666666666666666666666666666666658
  ⟨x, y, 1, x * y % prime⟩

/-- The sum of two points. -/
def add (p q : Point) : Point :=
  let a := subtract p.y p.x * subtract q.y q.x % prime
  let b := (p.y + p.x) * (q.y + q.x) % prime
  let c := 2 * p.t * q.t * curveConstant % prime
  let d := 2 * p.z * q.z % prime
  let e := subtract b a
  let f := subtract d c
  let g := (d + c) % prime
  let h := (b + a) % prime
  ⟨e * f % prime, g * h % prime, f * g % prime, e * h % prime⟩

/-- The opposite point. -/
def negate (p : Point) : Point := ⟨subtract 0 p.x, p.y, p.z, subtract 0 p.t⟩

/-- A multiple of a point; the count bounds the bits of the scalar. -/
def multiple : Nat → Nat → Point → Point
  | 0, _, _ => neutral
  | count + 1, scalar, p =>
    let rest := multiple count (scalar / 2) (add p p)
    if scalar % 2 = 1 then add p rest else rest

end Point

/-- A number in a fixed count of bytes, lowest first. -/
def littleEndian (count value : Nat) : Bytes := (Sha512.bigEndian count value).reverse

/-- The number that bytes denote, lowest first. -/
def numberOf (bytes : Bytes) : Nat := bytes.foldr (fun b number => number * 256 + b.toNat) 0

/-- A point in bytes: its second coordinate and the parity of the first. -/
def encodePoint (p : Point) : Bytes :=
  let scale := inverse p.z
  let x := p.x * scale % prime
  let y := p.y * scale % prime
  littleEndian 32 (y + x % 2 * Nat.pow 2 255)

/-- A first coordinate for the second one, up to its sign. -/
def root? (y : Nat) : Option Nat :=
  let u := subtract (y * y % prime) 1
  let v := (curveConstant * y * y + 1) % prime
  let cube := v * v * v % prime
  let x := u * cube * power 256 (u * cube * cube * v % prime) ((prime - 5) / 8) % prime
  let square := v * x * x % prime
  if square = u then some x
  else if square = subtract 0 u then some (x * rootOfMinusOne % prime)
  else none

/-- The point of the bytes, if they encode one. -/
def decodePoint? (bytes : Bytes) : Option Point := do
  let number := numberOf bytes
  let y := number % Nat.pow 2 255 % prime
  let x ← root? y
  let x := if x % 2 = number / Nat.pow 2 255 then x else subtract 0 x
  return ⟨x, y, 1, x * y % prime⟩

/-- The bytes hold a second coordinate below the prime. -/
def isCanonical (bytes : Bytes) : Bool := numberOf bytes % Nat.pow 2 255 < prime

/-- A second coordinate of the points of order eight. -/
def smallOrdinate : Nat := 0x05fc536d880238b13933c6d305acdfd5f098eff289f4c345b027b2c28f95e826

/-- The bytes hold the second coordinate of a point whose order divides eight. -/
def isSmallOrder (bytes : Bytes) : Bool :=
  [0, 1, prime - 1, smallOrdinate, prime - smallOrdinate].contains
    (numberOf bytes % Nat.pow 2 255 % prime)

/-- The secret scalar in the first half of a hashed seed. -/
def clamp (half : Bytes) : Nat := numberOf half % Nat.pow 2 254 / 8 * 8 + Nat.pow 2 254

/-- A hash as a scalar. -/
def scalarOf (message : Bytes) : Nat := numberOf (Sha512.hash message) % order

/-- The public key of a seed. -/
def publicKey (seed : Bytes) : Bytes :=
  encodePoint (Point.base.multiple 256 (clamp ((Sha512.hash seed).take 32)))

/-- The signature of a message under a seed. -/
def sign (seed message : Bytes) : Bytes :=
  let hashed := Sha512.hash seed
  let secret := clamp (hashed.take 32)
  let key := publicKey seed
  let nonce := scalarOf (hashed.drop 32 ++ message)
  let commitment := encodePoint (Point.base.multiple 256 nonce)
  let challenge := scalarOf (commitment ++ key ++ message)
  commitment ++ littleEndian 32 ((nonce + challenge * secret) % order)

/-- The signature of a message holds under a public key. -/
def verify (key message signature : Bytes) : Bool :=
  let commitment := signature.take 32
  let scalar := numberOf (signature.drop 32)
  if order ≤ scalar || isSmallOrder commitment || !isCanonical key || isSmallOrder key then false
  else
    match decodePoint? key with
    | none => false
    | some point =>
      let challenge := scalarOf (commitment ++ key ++ message)
      let expected :=
        (Point.base.multiple 256 scalar).add (point.negate.multiple 256 challenge)
      encodePoint expected == commitment

@[simp] theorem littleEndian_length (count value : Nat) :
    (littleEndian count value).length = count := by
  simp [littleEndian]

@[simp] theorem publicKey_length (seed : Bytes) : (publicKey seed).length = 32 := by
  simp [publicKey, encodePoint]

@[simp] theorem sign_length (seed message : Bytes) : (sign seed message).length = 64 := by
  simp [sign, encodePoint]

end OtcDesk.Ed25519
