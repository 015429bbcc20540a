import OtcDesk.Crypto.Aes
import OtcDesk.Crypto.Sha512

namespace OtcDesk.Gcm

/-- The number that bytes denote, highest first. -/
def numberOf (bytes : Bytes) : Nat := bytes.foldl (fun number b => number * 256 + b.toNat) 0

/-- The product in the field of the tag, with the first block by its bits, highest first. -/
def product : List Bool → Nat → Nat
  | [], _ => 0
  | bit :: bits, factor =>
    let half := factor / 2
    (if bit then factor else 0) ^^^
      product bits (if factor % 2 = 1 then half ^^^ (0xe1 <<< 120) else half)

/-- The bits of a block, highest first. -/
def bitsOf (block : Nat) : List Bool := ((List.range 128).reverse).map block.testBit

/-- The polynomial hash of blocks. -/
def hashBlocks (subkey : Nat) (blocks : List Nat) : Nat :=
  blocks.foldl (fun sum block => product (bitsOf (sum ^^^ block)) subkey) 0

/-- The number of blocks that cover a count of bytes. -/
def blockCount (length : Nat) : Nat := (length + 15) / 16

/-- The bytes as blocks, the last one filled with zeros. -/
def blocksOf (bytes : Bytes) : List Nat :=
  (Sha512.groups 16 (blockCount bytes.length) bytes).map fun group =>
    numberOf (group ++ List.replicate (16 - group.length) 0)

/-- The counter block of a nonce. -/
def counterBlock (nonce : Bytes) (counter : Nat) : Bytes := nonce ++ Sha512.bigEndian 4 counter

/-- The blocks of the key stream for a text of some length. -/
def stream (words : Array Bytes) (nonce : Bytes) (length : Nat) : Array Bytes :=
  ((List.range (blockCount length)).map fun i =>
    Aes.encryptWith words (counterBlock nonce (i + 2))).toArray

/-- A byte of the key stream. -/
def streamByte (blocks : Array Bytes) (index : Nat) : UInt8 :=
  (blocks.getD (index / 16) []).getD (index % 16) 0

/-- The text with the key stream added. -/
def addStream (words : Array Bytes) (nonce text : Bytes) : Bytes :=
  let blocks := stream words nonce text.length
  text.mapIdx fun index b => b ^^^ streamByte blocks index

/-- The tag of a ciphertext. -/
def tag (words : Array Bytes) (nonce cipher : Bytes) : Bytes :=
  let subkey := numberOf (Aes.encryptWith words (List.replicate 16 0))
  let sum := hashBlocks subkey (blocksOf cipher ++ [8 * cipher.length])
  Sha512.bigEndian 16 (sum ^^^ numberOf (Aes.encryptWith words (counterBlock nonce 1)))

/-- The plaintext sealed under a key and a nonce. -/
def encrypt (key nonce plain : Bytes) : Bytes :=
  let words := Aes.expand key
  let cipher := addStream words nonce plain
  cipher ++ tag words nonce cipher

/-- The plaintext of what was sealed, if the tag is right. -/
def decrypt? (key nonce sealedText : Bytes) : Option Bytes :=
  let words := Aes.expand key
  let cipher := sealedText.take (sealedText.length - 16)
  if 16 ≤ sealedText.length ∧ tag words nonce cipher = sealedText.drop (sealedText.length - 16) then
    some (addStream words nonce cipher)
  else none

@[simp] theorem addStream_length (words : Array Bytes) (nonce text : Bytes) :
    (addStream words nonce text).length = text.length := by
  simp [addStream]

@[simp] theorem tag_length (words : Array Bytes) (nonce cipher : Bytes) :
    (tag words nonce cipher).length = 16 := by
  simp [tag]

/-- Adding the key stream twice gives the text back. -/
theorem addStream_addStream (words : Array Bytes) (nonce text : Bytes) :
    addStream words nonce (addStream words nonce text) = text := by
  simp only [addStream, List.length_mapIdx]
  apply List.ext_getElem
  · simp
  · intro index _ _
    rw [List.getElem_mapIdx, List.getElem_mapIdx, UInt8.xor_assoc, UInt8.xor_self, UInt8.xor_zero]

end OtcDesk.Gcm
