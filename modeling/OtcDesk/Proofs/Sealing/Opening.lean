import OtcDesk.Proofs.Bytes.Base64
import OtcDesk.Proofs.Bytes.Hex
import OtcDesk.Proofs.Bytes.Utf8
import OtcDesk.Proofs.Except
import OtcDesk.Proofs.Text.Blank
import OtcDesk.Sealing

namespace OtcDesk

/-- A ciphertext with its own tag is decrypted. -/
theorem Gcm.decrypt?_tagged (key nonce cipher : Bytes) :
    Gcm.decrypt? key nonce (cipher ++ Gcm.tag (Aes.expand key) nonce cipher) =
      some (Gcm.addStream (Aes.expand key) nonce cipher) := by
  have total : (cipher ++ Gcm.tag (Aes.expand key) nonce cipher).length = cipher.length + 16 := by
    rw [List.length_append, Gcm.tag_length]
  have front : cipher.length + 16 - 16 = cipher.length := by omega
  have long : 16 ≤ cipher.length + 16 := by omega
  unfold Gcm.decrypt?
  dsimp only
  rw [total, front, List.take_left, List.drop_left, if_pos ⟨long, rfl⟩]

/-- What was encrypted is decrypted under the same key and nonce. -/
theorem Gcm.decrypt?_encrypt (key nonce plain : Bytes) :
    Gcm.decrypt? key nonce (Gcm.encrypt key nonce plain) = some plain := by
  unfold Gcm.encrypt
  dsimp only
  rw [Gcm.decrypt?_tagged, Gcm.addStream_addStream]

theorem Gcm.encrypt_length (key nonce plain : Bytes) :
    (Gcm.encrypt key nonce plain).length = plain.length + 16 := by
  simp [Gcm.encrypt]

/-- A payload splits into the nonce and the sealed text that its bytes are made of. -/
theorem splitPayload_of_decode {payload : String} {nonce sealedText : Bytes}
    (decoded : Base64.decode payload = .ok (nonce ++ sealedText)) (fits : nonce.length = 12)
    (nonempty : 0 < sealedText.length) : splitPayload payload = .ok (nonce, sealedText) := by
  have long : ¬ (nonce ++ sealedText).length ≤ 12 := by
    rw [List.length_append]
    omega
  rw [splitPayload, decoded]
  dsimp only
  rw [if_neg long, List.take_left' fits, List.drop_left' fits]

/-- A payload that is made of the sealing of a text opens to it, under any spelling of the key. -/
theorem decryptPayload_of_decode {key nonce : Bytes} {payload keyHex plain : String}
    (spelled : parseKey keyHex = .ok key) (fits : nonce.length = 12)
    (decoded : Base64.decode payload =
      .ok (nonce ++ Gcm.encrypt key nonce (Utf8.encode plain))) :
    decryptPayload payload keyHex = .ok plain := by
  have nonempty : 0 < (Gcm.encrypt key nonce (Utf8.encode plain)).length := by
    rw [Gcm.encrypt_length]
    omega
  rw [decryptPayload, spelled, splitPayload_of_decode decoded fits nonempty]
  simp only [mapError_ok, bind, Except.bind, Gcm.decrypt?_encrypt, Utf8.decode?_encode]
  rfl

/-- A payload opens to the text that it was made of, under any spelling of its key. -/
theorem decryptPayload_encryptPayload {key nonce : Bytes} {keyHex : String} (plain : String)
    (spelled : parseKey keyHex = .ok key) (fits : nonce.length = 12) :
    decryptPayload (encryptPayload key nonce plain) keyHex = .ok plain :=
  decryptPayload_of_decode spelled fits (Base64.decode_encode _)

/-- With a key that can be used, only the clock decides whether an intent is sealed. -/
theorem PlainIntent.build_of_key {key : Bytes} {keyHex : String} (intent : PlainIntent)
    (clock : Clock) (entropy : Entropy) (spelled : parseKey keyHex = .ok key) :
    (intent.build keyHex clock entropy).1 =
      match clock.seconds with
      | .error fault => .error (.fault fault)
      | .ok timestamp => .ok (.ofParts key entropy.signingSeed.1 entropy.sealingNonce.1
          entropy.uuid.1 timestamp intent) := by
  rw [PlainIntent.build, spelled]
  cases clock.seconds with
  | error fault => rfl
  | ok timestamp => rfl

/-- A sealed intent opens, under any spelling of its key, to the text of what was entered. -/
theorem built_opens_to_canonical (intent : PlainIntent) (keyHex otherHex : String) (key : Bytes)
    (clock : Clock) (entropy : Entropy) (spelled : parseKey keyHex = .ok key)
    (respelled : parseKey otherHex = .ok key) (fits : entropy.sealingNonce.1.length = 12) :
    match clock.seconds with
    | .ok _ => ∃ built, (intent.build keyHex clock entropy).1 = .ok built ∧
        decryptPayload built.encryptedPayload otherHex = .ok intent.canonical
    | .error fault => (intent.build keyHex clock entropy).1 = .error (.fault fault) := by
  have built := intent.build_of_key clock entropy spelled
  cases read : clock.seconds with
  | error fault =>
      rw [read] at built
      exact built
  | ok timestamp =>
      rw [read] at built
      exact ⟨_, built, decryptPayload_encryptPayload intent.canonical respelled fits⟩

/-- The demo key opens its sealing also with a mark, in capitals and with blanks. -/
theorem demo_sealing_opens :
    let half : Bytes := [0x00, 0x11, 0x22, 0x33, 0x44, 0x55, 0x66, 0x77, 0x88, 0x99, 0xaa, 0xbb,
      0xcc, 0xdd, 0xee, 0xff]
    let otherHex := " 0X00112233445566778899AABBCCDDEEFF 00112233445566778899AABBCCDDEEFF\n"
    let intent : PlainIntent := ⟨"BUY", "BTC/€", "1\u0000", "\"\\", "🪙", ""⟩
    let entropy : Entropy :=
      { uuids := fun _ => ⟨7⟩
        signingSeeds := fun _ => half ++ half
        sealingNonces := fun _ => half.take 12 }
    parseKey demoKeyHex = .ok (half ++ half) ∧ parseKey otherHex = .ok (half ++ half) ∧
      entropy.sealingNonce.1.length = 12 ∧
      ∃ built, (intent.build demoKeyHex (.whole 1700000000) entropy).1 = .ok built ∧
        decryptPayload built.encryptedPayload otherHex = .ok intent.canonical :=
  ⟨rfl, rfl, rfl, built_opens_to_canonical _ _ _ _ (.whole 1700000000) _ rfl rfl rfl⟩

end OtcDesk
