import OtcDesk.Json.Field
import OtcDesk.Role

namespace OtcDesk

/-- A message for the wallet to sign, or a refusal. -/
structure NonceChallenge where
  accepted : Bool
  walletAddress : String
  nonce : String
  message : String
  expiresAt : Int
  errorCode : Option String := none
  reason : String := ""
  deriving DecidableEq, Repr

/-- A bearer token for a verified wallet, or a refusal. -/
structure VerifiedToken where
  accepted : Bool
  accessToken : String
  walletAddress : String
  role : String
  expiresAt : Int
  errorCode : Option String := none
  reason : String := ""
  deriving DecidableEq, Repr

/-- Who a token belongs to. -/
structure WalletIdentity where
  authenticated : Bool
  walletAddress : String
  role : String
  errorCode : Option String := none
  reason : String := ""
  deriving DecidableEq, Repr

/-- An open session of a wallet. -/
structure WalletSession where
  accessToken : String
  walletAddress : String
  role : Role
  expiresAt : Int
  deriving DecidableEq, Repr

/-- The outcome of a login. -/
structure LoginResult where
  walletAddress : String
  role : Role
  panels : PanelAccess
  deriving DecidableEq, Repr

open Json

/-- The challenge in an answer. -/
def NonceChallenge.ofPayload (payload : Json) : Except Fault NonceChallenge := do
  let data ← payload.fields
  let expiresAt ← integerField data "expires_at"
  return {
    accepted := flagField data "accepted"
    walletAddress := textField data "wallet_address"
    nonce := textField data "nonce"
    message := textField data "message"
    expiresAt
    errorCode := optionalTextField data "error_code"
    reason := textField data "reason" }

/-- The token in an answer. -/
def VerifiedToken.ofPayload (payload : Json) : Except Fault VerifiedToken := do
  let data ← payload.fields
  let expiresAt ← integerField data "expires_at"
  return {
    accepted := flagField data "accepted"
    accessToken := textField data "access_token"
    walletAddress := textField data "wallet_address"
    role := textField data "role"
    expiresAt
    errorCode := optionalTextField data "error_code"
    reason := textField data "reason" }

/-- The identity in an answer. -/
def WalletIdentity.ofPayload (payload : Json) : Except Fault WalletIdentity := do
  let data ← payload.fields
  return {
    authenticated := flagField data "authenticated"
    walletAddress := textField data "wallet_address"
    role := textField data "role"
    errorCode := optionalTextField data "error_code"
    reason := textField data "reason" }

/-- The outcome of a login that opened a session. -/
def WalletSession.login (session : WalletSession) : LoginResult :=
  ⟨session.walletAddress, session.role, PanelAccess.ofRole session.role⟩

end OtcDesk
