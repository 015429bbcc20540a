import Mathlib.Data.List.Basic
import OtcDesk.Proofs.Json.Numbers
import OtcDesk.Proofs.Sealing.Signing

namespace OtcDesk

/-- A text does not have the mark between signed fields in it. -/
def Unmarked (text : String) : Prop := ':' ∉ text.toList

theorem Base64.unmarked_encode (bytes : Bytes) : Unmarked (Base64.encode bytes) := by
  have letters : ∀ value < 64, Base64.letter value ≠ ':' := by decide
  intro marked
  rw [Base64.encode, String.toList_ofList] at marked
  rcases Base64.mem_encodeList bytes ':' marked with pad | ⟨value, fits, same⟩
  · exact absurd pad (by decide)
  · exact letters value fits same.symm

theorem unmarked_encryptPayload (key nonce : Bytes) (plain : String) :
    Unmarked (encryptPayload key nonce plain) := Base64.unmarked_encode _

/-- Nothing but dashes stands between the digits of an identifier. -/
theorem Uuid.mem_dashed {id : Uuid} {c : Char} (member : c ∈ id.dashed.toList) :
    c = '-' ∨ c ∈ id.digits := by
  rw [Uuid.dashed, String.toList_ofList] at member
  simp only [List.mem_append, List.mem_cons] at member
  rcases member with (((first | dash | second) | dash | third) | dash | fourth) | dash | fifth
  · exact .inr (List.mem_of_mem_take first)
  · exact .inl dash
  · exact .inr (List.mem_of_mem_drop (List.mem_of_mem_take second))
  · exact .inl dash
  · exact .inr (List.mem_of_mem_drop (List.mem_of_mem_take third))
  · exact .inl dash
  · exact .inr (List.mem_of_mem_drop (List.mem_of_mem_take fourth))
  · exact .inl dash
  · exact .inr (List.mem_of_mem_drop fifth)

theorem Uuid.unmarked_dashed (id : Uuid) : Unmarked id.dashed := by
  have letters : ∀ digit < 16, Text.hexDigit digit ≠ ':' := by decide
  intro marked
  rcases Uuid.mem_dashed marked with dash | member
  · exact absurd dash (by decide)
  · obtain ⟨digit, fits, same⟩ := Text.mem_hexDigits member
    exact letters digit fits same.symm

theorem unmarked_toString (number : Int) : Unmarked (toString number) := by
  have digits : ∀ value, ':' ∉ Nat.toDigits 10 value := by
    intro value marked
    have digit := Nat.isDigit_of_mem_toDigits (by decide) (by decide) marked
    exact absurd digit (by decide)
  cases number with
  | ofNat value =>
      rw [Unmarked, Json.toList_toString_ofNat]
      exact digits value
  | negSucc value =>
      rw [Unmarked, Json.toList_toString_negSucc, List.mem_cons, not_or]
      exact ⟨by decide, digits _⟩

/-- A text splits in one way at its last mark. -/
theorem split_at_last_mark {front other back behind : List Char} (plain : ':' ∉ back)
    (alsoPlain : ':' ∉ behind) (same : front ++ ':' :: back = other ++ ':' :: behind) :
    front = other ∧ back = behind := by
  rcases List.append_eq_append_iff.mp same with ⟨between, rfl, tail⟩ | ⟨between, rfl, tail⟩
  · cases between with
    | nil => simpa using tail
    | cons c rest =>
        obtain ⟨rfl, rfl⟩ := List.cons.inj tail
        exact absurd (by simp) plain
  · cases between with
    | nil => simpa [eq_comm] using tail
    | cons c rest =>
        obtain ⟨rfl, rfl⟩ := List.cons.inj tail
        exact absurd (by simp) alsoPlain

/-- An integer is read back from its digits, so no two have the same. -/
theorem toString_int_injective {number other : Int} (same : toString number = toString other) :
    number = other := by
  have read := Json.readAtom_toString number Json.endsNumber_nil
  rw [same, Json.readAtom_toString other Json.endsNumber_nil] at read
  cases read
  rfl

theorem Utf8.encode_injective : Function.Injective Utf8.encode := by
  intro text other same
  have read := Utf8.decode?_encode text
  rw [same, Utf8.decode?_encode] at read
  exact (Option.some.inj read).symm

theorem toList_signed (payload nonce : String) (timestamp : Int) :
    (payload ++ ":" ++ nonce ++ ":" ++ toString timestamp).toList =
      (payload.toList ++ ':' :: nonce.toList) ++ ':' :: (toString timestamp).toList := by
  simp

variable {payload nonce : String} {timestamp : Int}

/-- Whatever fields make the signed bytes of two fields without the mark and of a time are these. -/
theorem signingMessage_inj {otherPayload otherNonce : String} {otherTime : Int}
    (unmarked : Unmarked payload) (alsoUnmarked : Unmarked nonce)
    (same : signingMessage otherPayload otherNonce otherTime =
      signingMessage payload nonce timestamp) :
    otherPayload = payload ∧ otherNonce = nonce ∧ otherTime = timestamp := by
  have texts := congrArg String.toList (Utf8.encode_injective same)
  rw [toList_signed, toList_signed] at texts
  obtain ⟨fields, times⟩ :=
    split_at_last_mark (unmarked_toString otherTime) (unmarked_toString timestamp) texts
  obtain ⟨payloads, -, nonces⟩ :=
    (List.append_cons_inj_of_notMem unmarked alsoUnmarked).mp fields.symm
  exact ⟨(String.toList_inj.mp payloads).symm, (String.toList_inj.mp nonces).symm,
    toString_int_injective (String.toList_inj.mp times)⟩

/-- With a mark in a field, other fields make the same bytes. -/
example : signingMessage "a:b" "c" 1 = signingMessage "a" "b:c" 1 := by decide

/-- The signature of a sealing covers its payload, nonce and time and no other three. -/
theorem signature_covers_one_triple (intent : PlainIntent) {key : Bytes} {keyHex : String}
    (spelled : parseKey keyHex = .ok key) (clock : Clock) (entropy : Entropy) :
    let seed := entropy.signingSeed.1
    match clock.seconds with
    | .error fault => (intent.build keyHex clock entropy).1 = .error (.fault fault)
    | .ok now => ∃ built, (intent.build keyHex clock entropy).1 = .ok built ∧
        built.timestamp = now ∧
        built.signerPublicKey = Hex.encode (Ed25519.publicKey seed) ∧
        (Ed25519.publicKey seed).length = 32 ∧
        built.signature = Hex.encode (Ed25519.sign seed built.signedBytes) ∧
        (Ed25519.sign seed built.signedBytes).length = 64 ∧
        (built.verify = .ok () ↔ Ed25519.verify (Ed25519.publicKey seed) built.signedBytes
          (Ed25519.sign seed built.signedBytes) = true) ∧
        ∀ payload nonce timestamp,
          (payload, nonce, timestamp) ≠ (built.encryptedPayload, built.nonce, built.timestamp) →
            signingMessage payload nonce timestamp ≠ built.signedBytes := by
  intro seed
  have builds := intent.build_of_key clock entropy spelled
  cases reads : clock.seconds with
  | error fault =>
      rw [reads] at builds
      exact builds
  | ok now =>
      rw [reads] at builds
      let built := BuiltIntent.ofParts key seed entropy.sealingNonce.1 entropy.uuid.1 now intent
      have isSigned : built.SignedWith seed := BuiltIntent.signedWith_ofParts ..
      have unmarked : Unmarked built.encryptedPayload := unmarked_encryptPayload _ _ _
      have alsoUnmarked : Unmarked built.nonce := Uuid.unmarked_dashed _
      refine ⟨built, builds, rfl, isSigned.key, Ed25519.publicKey_length seed, isSigned.signature,
        Ed25519.sign_length seed _, isSigned.verify_iff, ?_⟩
      intro payload nonce timestamp different same
      obtain ⟨payloads, nonces, times⟩ := signingMessage_inj unmarked alsoUnmarked same
      exact different (by rw [payloads, nonces, times])

/-- Under the demo key, nothing that is stamped a second later is what was signed. -/
theorem demo_sealing_not_restamped :
    let half : Bytes := [0x00, 0x11, 0x22, 0x33, 0x44, 0x55, 0x66, 0x77, 0x88, 0x99, 0xaa, 0xbb,
      0xcc, 0xdd, 0xee, 0xff]
    let intent : PlainIntent := ⟨"BUY", "BTC/€", "1", "2:3", "::", ""⟩
    let entropy : Entropy :=
      { uuids := fun _ => ⟨7⟩
        signingSeeds := fun _ => half ++ half
        sealingNonces := fun _ => half.take 12 }
    parseKey demoKeyHex = .ok (half ++ half) ∧
      ∃ built, (intent.build demoKeyHex (.whole 1700000000) entropy).1 = .ok built ∧
        ∀ payload nonce, signingMessage payload nonce 1700000001 ≠ built.signedBytes := by
  intro half intent entropy
  have spelled : parseKey demoKeyHex = .ok (half ++ half) := rfl
  obtain ⟨built, builds, stamped, -, -, -, -, -, covers⟩ :=
    signature_covers_one_triple intent spelled (.whole 1700000000) entropy
  refine ⟨spelled, built, builds, fun payload nonce => covers payload nonce 1700000001 ?_⟩
  rw [stamped]
  intro same
  have times : (1700000001 : Int) = 1700000000 := congrArg (fun triple => triple.2.2) same
  exact absurd times (by decide)

end OtcDesk
