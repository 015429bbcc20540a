import OtcDesk.Proofs.CommandLine.Arguments
import OtcDesk.Proofs.Sealing.Signing

namespace OtcDesk.CommandLine

/-- A side of a trade: the prefix of its options, and its default counterparty and direction. -/
structure TradeSide where
  name : String
  counterparty : String
  direction : String

/-- A text in a request, where null stands for an empty one. -/
def nullIfEmpty (text : String) : Json := if text = "" then .null else .str text

/-- What is sent of a text that counts only when it is not empty. -/
theorem ofText?_given? (given : Option String) :
    Json.ofText? (Text.given? given) = nullIfEmpty (given.getD "") := by
  cases given with
  | none => rfl
  | some text =>
      by_cases empty : text = ""
      · simp [Text.given?, nullIfEmpty, Json.ofText?, empty]
      · simp [Text.given?, nullIfEmpty, Json.ofText?, empty]

theorem given?_given? (given : Option String) :
    Text.given? (Text.given? given) = Text.given? given := by
  cases given with
  | none => rfl
  | some text =>
      by_cases empty : text = ""
      · simp [Text.given?, empty]
      · simp [Text.given?, empty]

namespace TradeSide

/-- The side that buys when nothing is said. -/
def left : TradeSide := ⟨"left", "DEALER-A-CP", "buy"⟩

/-- The side that sells when nothing is said. -/
def right : TradeSide := ⟨"right", "DEALER-B-CP", "sell"⟩

variable (side : TradeSide) (values : Table String)

/-- The counterparty of a side. -/
def counterpartyIn : String :=
  Command.value values ("--" ++ side.name ++ "-counterparty") side.counterparty

/-- The intent of a side: six fields, two of them its own and four those of the trade. -/
def intentIn : Json :=
  .obj [
    ("side", .str (Command.value values ("--" ++ side.name ++ "-side") side.direction)),
    ("asset_pair", .str (Command.value values "--asset-pair" "ETH/USDC")),
    ("amount", .str (Command.value values "--amount" "100000")),
    ("limit_price", .str (Command.value values "--limit-price" "2800")),
    ("settlement_currency", .str (Command.value values "--settlement-currency" "USDC")),
    ("counterparty_id", .str (side.counterpartyIn values))]

/-- The subject of a side, where an empty country and an absent or empty wallet are null. -/
def subjectIn : Json :=
  .obj [("counterparty", .obj [
    ("counterparty_id", .str (side.counterpartyIn values)),
    ("country", nullIfEmpty (Command.value values ("--" ++ side.name ++ "-country") "US")),
    ("wallet_address", nullIfEmpty (Command.value values ("--" ++ side.name ++ "-wallet") ""))])]

/-- The options of a side. -/
def options : PartyOptions := Command.partyOptions values side.name side.counterparty side.direction

/-- An intent and a subject are sent for a side, sealed under a key and signed with a seed. -/
structure Sends (keyHex : String) (seed : Bytes) (intent subject : Json) : Prop where
  sealing : ∃ built text, intent = BuiltIntent.toJson built ∧
    decryptPayload built.encryptedPayload keyHex = .ok text ∧
    Json.read? text = some (side.intentIn values) ∧ built.SignedWith seed ∧
    (Ed25519.verify (Ed25519.publicKey seed) built.signedBytes
      (Ed25519.sign seed built.signedBytes) = true → built.verify = .ok ())
  subject : subject = side.subjectIn values

/-- A side that is sealed under a key with some randomness. -/
def dealerFrom (key : Bytes) (entropy : Entropy) (now : Int) : DealerIntent :=
  (side.options values).dealer
    (.ofParts key entropy.signingSeed.1 entropy.sealingNonce.1 entropy.uuid.1 now
      ((Command.submitOptions values).intent (side.options values)))

theorem subject_dealerFrom (key : Bytes) (entropy : Entropy) (now : Int) :
    (side.dealerFrom values key entropy now).subject = side.subjectIn values := by
  have country := ofText?_given? (some (side.options values).country)
  have wallet := ofText?_given? (side.options values).wallet
  simp only [DealerIntent.subject, dealerFrom, PartyOptions.dealer, given?_given?, country, wallet]
  rfl

/-- What is sealed for a side is sent for it. -/
theorem sends_dealerFrom {key : Bytes} {keyHex : String} (entropy : Entropy)
    (spelled : parseKey keyHex = .ok key) (fits : entropy.sealingNonce.1.length = 12) (now : Int) :
    side.Sends values keyHex entropy.signingSeed.1
      (side.dealerFrom values key entropy now).built.toJson
      (side.dealerFrom values key entropy now).subject := by
  let intent := (Command.submitOptions values).intent (side.options values)
  have isSigned := BuiltIntent.signedWith_ofParts key entropy.signingSeed.1 entropy.sealingNonce.1
    entropy.uuid.1 now intent
  exact ⟨⟨_, _, rfl, decryptPayload_encryptPayload intent.canonical spelled fits,
    intent.read?_canonical, isSigned, isSigned.verify_iff.mpr⟩,
    side.subject_dealerFrom values key entropy now⟩

end TradeSide

end OtcDesk.CommandLine
