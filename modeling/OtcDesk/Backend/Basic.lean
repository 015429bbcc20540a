import OtcDesk.Attempt
import OtcDesk.Intent
import OtcDesk.Record.Login
import OtcDesk.Record.Proof

namespace OtcDesk

/-- A backend answers five questions. -/
structure Backend (σ : Type) where
  /-- A message to sign, for a wallet. -/
  requestNonce : String → Attempt σ NonceChallenge
  /-- A token, for a wallet and its signature. -/
  verifySignature : String → String → Attempt σ VerifiedToken
  /-- The owner of a token. -/
  fetchMe : String → Attempt σ WalletIdentity
  /-- A trade of two parties, under a token and with a type of proof. -/
  startOrchestration :
    String → DealerIntent → DealerIntent → String → Attempt σ OrchestrationResult
  /-- The proof jobs of a run, under a token if there is one. -/
  fetchProofJobs : String → Option String → Attempt σ ProofJobsByRun

namespace Backend

/-- The type of proof that is asked for by default. -/
def defaultProofType : String := "settlement"

/-- An answer is read; one of the wrong shape is a transport error. -/
def readAnswer {α : Type} (read : Json → Except Fault α) (payload : Json) (operation : String) :
    Except Failure α :=
  match read payload with
  | .ok answer => .ok answer
  | .error fault =>
    if fault.isMalformed then
      .error <| .desk <|
        .transport (operation ++ " returned malformed response: " ++ fault.text) none
    else .error (.fault fault)

end Backend

/-- The message that a wallet signs to log in. -/
def loginMessage (wallet nonce : String) (issuedAt : Int) (chainId : Int) : String :=
  "ZK-Clear Wallet Login\nwallet:" ++ wallet ++ "\nnonce:" ++ nonce ++ "\nissued_at:" ++
    toString issuedAt ++ "\nchain_id:" ++ toString chainId

end OtcDesk
