import OtcDesk.Proofs.Record.Reading
import OtcDesk.Proofs.Sealing.Opening

namespace OtcDesk

/-- What is decrypted to a plaintext is the encryption of that plaintext. -/
theorem Gcm.encrypt_of_decrypt? {key nonce sealedText plain : Bytes}
    (opens : Gcm.decrypt? key nonce sealedText = some plain) :
    Gcm.encrypt key nonce plain = sealedText := by
  unfold Gcm.decrypt? at opens
  dsimp only at opens
  split at opens
  · rename_i tagged
    obtain rfl := Option.some.inj opens
    unfold Gcm.encrypt
    dsimp only
    rw [Gcm.addStream_addStream, tagged.2, List.take_append_drop]
  · cases opens

/-- A payload that splits is made of a nonce and of what is behind it. -/
theorem decode_of_splitPayload {payload : String} {nonce sealedText : Bytes}
    (splits : splitPayload payload = .ok (nonce, sealedText)) :
    nonce.length = 12 ∧ Base64.decode payload = .ok (nonce ++ sealedText) := by
  rw [splitPayload] at splits
  cases decoded : Base64.decode payload with
  | error fault =>
      rw [decoded] at splits
      cases splits
  | ok raw =>
      rw [decoded] at splits
      dsimp only at splits
      split at splits
      · cases splits
      · cases splits
        constructor
        · rw [List.length_take]
          omega
        · rw [List.take_append_drop]

/-- A payload opens to a text exactly if it is made of the sealing of that text. -/
theorem decryptPayload_eq_ok_iff {payload keyHex text : String} :
    decryptPayload payload keyHex = .ok text ↔ ∃ key nonce, parseKey keyHex = .ok key ∧
      nonce.length = 12 ∧
      Base64.decode payload = .ok (nonce ++ Gcm.encrypt key nonce (Utf8.encode text)) := by
  constructor
  · intro opens
    rw [decryptPayload] at opens
    obtain ⟨key, spelled, opens⟩ := bind_eq_ok.mp opens
    obtain ⟨⟨nonce, sealedText⟩, splits, opens⟩ := bind_eq_ok.mp opens
    obtain ⟨fits, decoded⟩ := decode_of_splitPayload (mapError_eq_ok splits)
    refine ⟨key, nonce, mapError_eq_ok spelled, fits, ?_⟩
    dsimp only at opens
    split at opens
    · cases opens
    · rename_i plain decrypted
      split at opens
      · rename_i found read
        cases opens
        rw [Utf8.encode_of_decode? read, Gcm.encrypt_of_decrypt? decrypted]
        exact decoded
      · cases opens
  · rintro ⟨key, nonce, spelled, fits, decoded⟩
    exact decryptPayload_of_decode spelled fits decoded

/-- Every payload that opens to a text is the sealing of that text under its nonce. -/
theorem opened_payload_is_sealing {payload keyHex text : String}
    (opens : decryptPayload payload keyHex = .ok text) :
    ∃ key nonce sealedText, parseKey keyHex = .ok key ∧ nonce.length = 12 ∧
      Base64.decode payload = .ok (nonce ++ sealedText) ∧ 28 ≤ (nonce ++ sealedText).length ∧
      Gcm.encrypt key nonce (Utf8.encode text) = sealedText ∧
      Base64.decode (encryptPayload key nonce text) = .ok (nonce ++ sealedText) ∧
      ∀ other otherHex raw, parseKey otherHex = .ok key → decryptPayload other otherHex = .ok text →
        Base64.decode other = .ok raw → raw.take 12 = nonce → raw = nonce ++ sealedText := by
  obtain ⟨key, nonce, spelled, fits, decoded⟩ := decryptPayload_eq_ok_iff.mp opens
  refine ⟨key, nonce, _, spelled, fits, decoded, ?long, rfl, Base64.decode_encode _, ?unique⟩
  case long =>
    rw [List.length_append, Gcm.encrypt_length]
    omega
  case unique =>
    intro other otherHex raw respelled reopens read sameNonce
    obtain ⟨otherKey, otherNonce, otherSpelled, otherFits, otherDecoded⟩ :=
      decryptPayload_eq_ok_iff.mp reopens
    obtain rfl : key = otherKey := Except.ok.inj (respelled.symm.trans otherSpelled)
    obtain rfl : raw = _ := Except.ok.inj (read.symm.trans otherDecoded)
    rw [List.take_left' otherFits] at sameNonce
    rw [sameNonce]

/-- Another payload with the nonce of a sealing that opens to its text has its bytes. -/
theorem demo_sealing_genuine :
    let half : Bytes := [0x00, 0x11, 0x22, 0x33, 0x44, 0x55, 0x66, 0x77, 0x88, 0x99, 0xaa, 0xbb,
      0xcc, 0xdd, 0xee, 0xff]
    let payload := encryptPayload (half ++ half) (half.take 12) "BTC/€ 🪙"
    decryptPayload payload demoKeyHex = .ok "BTC/€ 🪙" ∧
      ∃ raw, Base64.decode payload = .ok raw ∧ 28 ≤ raw.length ∧
        ∀ other, decryptPayload other demoKeyHex = .ok "BTC/€ 🪙" →
          ∀ bytes, Base64.decode other = .ok bytes → bytes.take 12 = raw.take 12 → bytes = raw := by
  intro half payload
  have opens : decryptPayload payload demoKeyHex = .ok "BTC/€ 🪙" :=
    decryptPayload_encryptPayload "BTC/€ 🪙" rfl rfl
  obtain ⟨key, nonce, sealedText, spelled, fits, decoded, long, -, -, unique⟩ :=
    opened_payload_is_sealing opens
  refine ⟨opens, _, decoded, long, fun other reopens bytes read sameNonce => ?_⟩
  rw [List.take_left' fits] at sameNonce
  exact unique other demoKeyHex bytes spelled reopens read sameNonce

end OtcDesk
