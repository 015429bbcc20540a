import OtcDesk.Bytes.Base64
import OtcDesk.Bytes.Hex
import OtcDesk.Clock
import OtcDesk.Crypto.Ed25519
import OtcDesk.Crypto.Gcm
import OtcDesk.DeskError
import OtcDesk.Entropy
import OtcDesk.Intent
import OtcDesk.Warning

namespace OtcDesk

/-- The key that is used when none is configured. -/
def demoKeyHex : String := "00112233445566778899aabbccddeeff00112233445566778899aabbccddeeff"

/-- A key text without the mark of hexadecimal in front. -/
def dropHexMark : List Char → List Char
  | '0' :: 'x' :: rest => rest
  | '0' :: 'X' :: rest => rest
  | text => text

/-- The key that a text gives: thirty-two bytes in hexadecimal. -/
def parseKey (keyHex : String) : Except DeskError Bytes :=
  let clean := dropHexMark (Text.trimWhere Text.isBlank keyHex.toList)
  match Hex.decode (String.ofList clean) with
  | .error position =>
    .error (.keyUnusable ("intent encryption key is not valid hex: " ++ Hex.complaint position))
  | .ok key =>
    if key.length = 32 then .ok key
    else
      .error <| .keyUnusable <|
        "intent encryption key must be 32-byte hex, got " ++ toString key.length ++ " bytes"

/-- The key text that is used, with a remark when it is the demo key. -/
def chooseKey : Option String → String × List Warning
  | some keyHex => (keyHex, [])
  | none => (demoKeyHex, [.demoKey])

/-- A text encrypted under a key and a nonce. -/
def encryptPayload (key nonce : Bytes) (plain : String) : String :=
  Base64.encode (nonce ++ Gcm.encrypt key nonce (Utf8.encode plain))

/-- The sealed form of an intent, from everything that goes into it. -/
def BuiltIntent.ofParts (key seed sealingNonce : Bytes) (id : Uuid) (timestamp : Int)
    (intent : PlainIntent) : BuiltIntent :=
  let encryptedPayload := encryptPayload key sealingNonce intent.canonical
  let nonce := id.dashed
  { encryptedPayload
    signature := Hex.encode (Ed25519.sign seed (signingMessage encryptedPayload nonce timestamp))
    signerPublicKey := Hex.encode (Ed25519.publicKey seed)
    nonce
    timestamp }

/-- An intent is sealed with fresh randomness. -/
def PlainIntent.build (intent : PlainIntent) (keyHex : String) (clock : Clock)
    (entropy : Entropy) : Except Failure BuiltIntent × Entropy :=
  match parseKey keyHex with
  | .error refusal => (.error (.desk refusal), entropy)
  | .ok key =>
    let (seed, entropy) := entropy.signingSeed
    let (sealingNonce, entropy) := entropy.sealingNonce
    let (id, entropy) := entropy.uuid
    match clock.seconds with
    | .error fault => (.error (.fault fault), entropy)
    | .ok timestamp => (.ok (.ofParts key seed sealingNonce id timestamp intent), entropy)

/-- The bytes of a key or a signature in hexadecimal. -/
def signerBytes (text : String) : Except DeskError Bytes :=
  (Hex.decode text).mapError fun position =>
    .refused "INVALID_SIGNER" ("invalid hex: " ++ Hex.complaint position)

/-- The signature of a sealed intent is checked as the gateway checks it. -/
def BuiltIntent.verify (intent : BuiltIntent) : Except DeskError Unit := do
  let key ← signerBytes intent.signerPublicKey
  let signature ← signerBytes intent.signature
  if key.length ≠ 32 then
    throw (.refused "INVALID_SIGNER" "signer_public_key must be 32 bytes")
  if signature.length ≠ 64 then
    throw (.refused "INVALID_SIGNATURE" "signature must be 64 bytes")
  if !Ed25519.verify key intent.signedBytes signature then
    throw (.refused "BAD_SIGNATURE" "signature verification failed")

/-- The nonce and the sealed text of a payload. -/
def splitPayload (payload : String) : Except DeskError (Bytes × Bytes) :=
  match Base64.decode payload with
  | .error fault =>
    .error (.refused "INVALID_PAYLOAD" ("invalid encrypted_payload base64: " ++ fault.message))
  | .ok raw =>
    if raw.length ≤ 12 then .error (.refused "INVALID_PAYLOAD" "encrypted_payload is too short")
    else .ok (raw.take 12, raw.drop 12)

/-- The text of a payload under a key. -/
def decryptPayload (payload keyHex : String) : Except Failure String := do
  let key ← (parseKey keyHex).mapError .desk
  let (nonce, sealedText) ← (splitPayload payload).mapError .desk
  match Gcm.decrypt? key nonce sealedText with
  | none => throw (.desk (.refused "DECRYPT_FAILED" "decrypt failed"))
  | some plain =>
    match Utf8.decode? plain with
    | some text => return text
    | none => throw (.fault ⟨.badText, "the plaintext is not UTF-8"⟩)

end OtcDesk
