import OtcDesk.Bytes.Utf8
import OtcDesk.Text.Quoted

namespace OtcDesk

/-- A universally unique identifier of 128 bits. -/
structure Uuid where
  value : Nat
  deriving DecidableEq, Repr

namespace Uuid

/-- The thirty-two digits of an identifier. -/
def digits (id : Uuid) : List Char := Text.hexDigits 32 id.value

/-- The digits in a row. -/
def hex (id : Uuid) : String := String.ofList id.digits

/-- The digits in five groups. -/
def dashed (id : Uuid) : String :=
  let digits := id.digits
  String.ofList <|
    digits.take 8 ++ '-' :: (digits.drop 8).take 4 ++ '-' :: (digits.drop 12).take 4 ++
      '-' :: (digits.drop 16).take 4 ++ '-' :: digits.drop 20

/-- The identifier of random bytes, marked as such in its version and variant. -/
def ofRandom (bytes : Bytes) : Uuid :=
  let marked := bytes.mapIdx fun index byte =>
    if index = 6 then byte &&& 0x0f ||| 0x40 else if index = 8 then byte &&& 0x3f ||| 0x80 else byte
  ⟨marked.foldl (fun value byte => value * 256 + byte.toNat) 0⟩

end Uuid

/-- The streams of randomness and how much was drawn from each. -/
structure Entropy where
  uuids : Nat → Uuid
  signingSeeds : Nat → Bytes
  sealingNonces : Nat → Bytes
  uuidsDrawn : Nat := 0
  seedsDrawn : Nat := 0
  noncesDrawn : Nat := 0

namespace Entropy

/-- The next identifier. -/
def uuid (entropy : Entropy) : Uuid × Entropy :=
  (entropy.uuids entropy.uuidsDrawn, { entropy with uuidsDrawn := entropy.uuidsDrawn + 1 })

/-- The next seed of a signing key. -/
def signingSeed (entropy : Entropy) : Bytes × Entropy :=
  (entropy.signingSeeds entropy.seedsDrawn, { entropy with seedsDrawn := entropy.seedsDrawn + 1 })

/-- The next nonce for sealing. -/
def sealingNonce (entropy : Entropy) : Bytes × Entropy :=
  (entropy.sealingNonces entropy.noncesDrawn,
    { entropy with noncesDrawn := entropy.noncesDrawn + 1 })

end Entropy

end OtcDesk
