import OtcDesk.Bytes.Utf8
import OtcDesk.Json.Writer
import OtcDesk.Text.Columns

namespace OtcDesk

/-- An intent as entered. -/
structure PlainIntent where
  side : String
  assetPair : String
  amount : String
  limitPrice : String
  settlementCurrency : String
  counterpartyId : String
  deriving DecidableEq, Repr

/-- An intent as sent: encrypted, and signed under a key made for it alone. -/
structure BuiltIntent where
  encryptedPayload : String
  signature : String
  signerPublicKey : String
  nonce : String
  timestamp : Int
  deriving DecidableEq, Repr

/-- A sealed intent and the party that submits it. -/
structure DealerIntent where
  built : BuiltIntent
  counterpartyId : String
  country : Option String := none
  walletAddress : Option String := none
  deriving DecidableEq, Repr

/-- The fields of an intent in their fixed order. -/
def PlainIntent.toJson (intent : PlainIntent) : Json :=
  .obj [
    ("side", .str intent.side),
    ("asset_pair", .str intent.assetPair),
    ("amount", .str intent.amount),
    ("limit_price", .str intent.limitPrice),
    ("settlement_currency", .str intent.settlementCurrency),
    ("counterparty_id", .str intent.counterpartyId)]

/-- The one text of an intent, which is what gets encrypted. -/
def PlainIntent.canonical (intent : PlainIntent) : String := intent.toJson.write .compact

/-- The bytes that a signature covers. -/
def signingMessage (encryptedPayload nonce : String) (timestamp : Int) : Bytes :=
  Utf8.encode (encryptedPayload ++ ":" ++ nonce ++ ":" ++ toString timestamp)

/-- The bytes that the signature of a sealed intent covers. -/
def BuiltIntent.signedBytes (intent : BuiltIntent) : Bytes :=
  signingMessage intent.encryptedPayload intent.nonce intent.timestamp

/-- The form of a sealed intent in a request. -/
def BuiltIntent.toJson (intent : BuiltIntent) : Json :=
  .obj [
    ("encrypted_payload", .str intent.encryptedPayload),
    ("signature", .str intent.signature),
    ("signer_public_key", .str intent.signerPublicKey),
    ("nonce", .str intent.nonce),
    ("timestamp", .int intent.timestamp)]

/-- The party as the subject of a compliance check; what is empty is left out. -/
def DealerIntent.subject (intent : DealerIntent) : Json :=
  .obj [("counterparty", .obj [
    ("counterparty_id", .str intent.counterpartyId),
    ("country", .ofText? (Text.given? intent.country)),
    ("wallet_address", .ofText? (Text.given? intent.walletAddress))])]

end OtcDesk
