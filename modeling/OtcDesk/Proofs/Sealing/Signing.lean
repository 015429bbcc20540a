import OtcDesk.Proofs.Json.RoundTrip
import OtcDesk.Proofs.Sealing.Opening

namespace OtcDesk

/-- The randomness that is left once one value of every kind was drawn. -/
def Entropy.afterSealing (entropy : Entropy) : Entropy :=
  { entropy with
    uuidsDrawn := entropy.uuidsDrawn + 1
    seedsDrawn := entropy.seedsDrawn + 1
    noncesDrawn := entropy.noncesDrawn + 1 }

namespace PlainIntent

theorem plain_toJson (intent : PlainIntent) : intent.toJson.Plain Json.nestingLimit := by
  have distinct : ["side", "asset_pair", "amount", "limit_price", "settlement_currency",
      "counterparty_id"].Nodup := by decide
  exact Json.plain_texts [("side", intent.side), ("asset_pair", intent.assetPair),
    ("amount", intent.amount), ("limit_price", intent.limitPrice),
    ("settlement_currency", intent.settlementCurrency),
    ("counterparty_id", intent.counterpartyId)] distinct

/-- The text of an intent reads as its fields. -/
theorem read?_canonical (intent : PlainIntent) :
    Json.read? intent.canonical = some intent.toJson :=
  Json.read?_write Json.Style.compact_regular intent.plain_toJson

/-- What the sealing of an intent comes to under a key: the clock decides whether there is one. -/
def sealedUnder (key : Bytes) (clock : Clock) (entropy : Entropy) (intent : PlainIntent) :
    Except Failure BuiltIntent :=
  match clock.seconds with
  | .error fault => .error (.fault fault)
  | .ok now =>
    .ok (.ofParts key entropy.signingSeed.1 entropy.sealingNonce.1 entropy.uuid.1 now intent)

/-- With a key that can be used, one value of every kind is drawn. -/
theorem build_of_usable {key : Bytes} {keyHex : String} (spelled : parseKey keyHex = .ok key)
    (intent : PlainIntent) (clock : Clock) (entropy : Entropy) :
    intent.build keyHex clock entropy =
      (intent.sealedUnder key clock entropy, entropy.afterSealing) := by
  rw [build, spelled, sealedUnder]
  cases clock.seconds with
  | error fault => rfl
  | ok now => rfl

/-- With a key that cannot be used, nothing is drawn. -/
theorem build_of_unusable {refusal : DeskError} {keyHex : String}
    (unusable : parseKey keyHex = .error refusal) (intent : PlainIntent) (clock : Clock)
    (entropy : Entropy) :
    intent.build keyHex clock entropy = (.error (.desk refusal), entropy) := by
  rw [build, unusable]

/-- An intent is sealed with the next value of every kind. -/
theorem build_eq {key : Bytes} {keyHex : String} {clock : Clock} {now : Int}
    (intent : PlainIntent) (entropy : Entropy) (spelled : parseKey keyHex = .ok key)
    (reads : clock.seconds = .ok now) :
    intent.build keyHex clock entropy =
      (.ok (.ofParts key entropy.signingSeed.1 entropy.sealingNonce.1 entropy.uuid.1 now intent),
        entropy.afterSealing) := by
  rw [build_of_usable spelled, sealedUnder, reads]

end PlainIntent

namespace BuiltIntent

/-- An intent carries the public key of a seed and its signature of what is covered. -/
structure SignedWith (built : BuiltIntent) (seed : Bytes) : Prop where
  key : built.signerPublicKey = Hex.encode (Ed25519.publicKey seed)
  signature : built.signature = Hex.encode (Ed25519.sign seed built.signedBytes)

/-- A sealed intent is signed with the seed that goes into it. -/
theorem signedWith_ofParts (key seed sealingNonce : Bytes) (id : Uuid) (timestamp : Int)
    (intent : PlainIntent) :
    (ofParts key seed sealingNonce id timestamp intent).SignedWith seed :=
  ⟨rfl, rfl⟩

/-- A signature of whole length passes exactly if verification accepts its bytes. -/
theorem verify_iff_accepts {built : BuiltIntent} {key signature : Bytes}
    (isKey : built.signerPublicKey = Hex.encode key)
    (isSignature : built.signature = Hex.encode signature) (wholeKey : key.length = 32)
    (wholeSignature : signature.length = 64) :
    built.verify = .ok () ↔ Ed25519.verify key built.signedBytes signature = true := by
  have read : ∀ bytes : Bytes, signerBytes (Hex.encode bytes) = .ok bytes := by
    intro bytes
    rw [signerBytes, Hex.decode_encode]
    rfl
  rw [BuiltIntent.verify, isKey, isSignature, read, read]
  simp only [bind, Except.bind, wholeKey, wholeSignature]
  cases Ed25519.verify key built.signedBytes signature with
  | false => exact ⟨nofun, nofun⟩
  | true => exact ⟨fun _ => rfl, fun _ => rfl⟩

/-- The signature of an intent passes exactly if verification accepts what its seed has signed. -/
theorem SignedWith.verify_iff {built : BuiltIntent} {seed : Bytes}
    (isSigned : built.SignedWith seed) :
    built.verify = .ok () ↔ Ed25519.verify (Ed25519.publicKey seed) built.signedBytes
      (Ed25519.sign seed built.signedBytes) = true :=
  verify_iff_accepts isSigned.key isSigned.signature (Ed25519.publicKey_length seed)
    (Ed25519.sign_length seed _)

end BuiltIntent

end OtcDesk
