import OtcDesk.Backend.Basic
import OtcDesk.Json.Body
import OtcDesk.Text.Columns

namespace OtcDesk

/-- The two methods of a request. -/
inductive Method where
  | get
  | post
  deriving DecidableEq, Repr

/-- The name of a method. -/
def Method.name : Method → String
  | .get => "GET"
  | .post => "POST"

/-- A request as it is handed over to the network. -/
structure Request where
  method : Method
  url : String
  headers : Table String
  json : Option Json
  timeout : Double
  deriving DecidableEq, Repr

/-- The network brings a response, a failure, or a complaint about the address. -/
inductive Reply where
  | response (status : Int) (body : Bytes)
  | failure (message : String)
  | badAddress (message : String)
  deriving DecidableEq, Repr

/-- The remote backend, the replies to come, and the requests made. -/
structure Remote where
  baseUrl : String
  timeout : Double
  replies : List Reply := []
  requests : List Request := []
  deriving DecidableEq, Repr

namespace Remote

/-- A slash at the end of an address does not count. -/
def ofAddress (address : String) (timeout : Double) (replies : List Reply) : Remote :=
  { baseUrl := Text.stripEndOf '/' address, timeout, replies }

/-- The headers of a request, with the token if there is one. -/
def headers (token : Option String) : Table String :=
  ("Content-Type", "application/json") ::
    ((Text.given? token).map fun token => ("Authorization", "Bearer " ++ token)).toList

/-- A status stands for success. -/
def isSuccess (status : Int) : Bool := 200 ≤ status && status < 300

/-- A failed operation with its status. -/
def failed (operation : String) (status : Int) : String :=
  operation ++ " failed (" ++ toString status ++ ")"

/-- The object that a response holds, or the refusal that it amounts to with what was read of it. -/
def judge (operation : String) (status : Int) (body : Bytes) (payload : Option Json) :
    Except DeskError (Table Json) :=
  if isSuccess status then
    match payload with
    | some (.obj fields) => .ok fields
    | _ => .error (.transport (operation ++ " returned non-JSON response") (some status))
  else
    match payload with
    | some (.obj fields) =>
      let code := ((Table.get? "error_code" fields).bind Json.given?).getD .null
      let reason :=
        (((Table.get? "reason" fields).bind Json.given?).map Json.text).getD
          (failed operation status)
      .error (.rejection code reason (some status))
    | _ =>
      .error <| .transport
        (failed operation status ++ ": " ++ Text.orElse (Utf8.decodeLossy body) "empty response")
        (some status)

/-- The object in a response, or the refusal that the response amounts to. -/
def decode (operation : String) (status : Int) (body : Bytes) : Except Failure (Table Json) :=
  match Json.readBody body with
  | .error .tooDeep => .error (.fault Json.ReadFault.tooDeep.fault)
  | payload => (judge operation status body payload.toOption).mapError .desk

/-- The object that a reply brings. -/
def receive (operation : String) : Reply → Except Failure (Table Json)
  | .response status body => decode operation status body
  | .failure message => .error (.desk (.transport (operation ++ " failed: " ++ message) none))
  | .badAddress message => .error (.fault ⟨.badAddress, message⟩)

/-- A request is made and takes the next reply. -/
def send (method : Method) (path operation : String) (json : Option Json)
    (token : Option String) : Attempt Remote (Table Json) := fun remote =>
  let request : Request :=
    { method, url := remote.baseUrl ++ path, headers := headers token, json,
      timeout := remote.timeout }
  let remote := { remote with requests := remote.requests ++ [request] }
  match remote.replies with
  | reply :: later => (receive operation reply, { remote with replies := later })
  | [] => (.error (.fault ⟨.running, "no reply is left"⟩), remote)

/-- A request is made and its answer is read. -/
def ask {α : Type} (read : Json → Except Fault α) (method : Method) (path operation : String)
    (json : Option Json) (token : Option String) : Attempt Remote α := fun remote =>
  let (received, remote) := send method path operation json token remote
  (received.bind fun fields => Backend.readAnswer read (.obj fields) operation, remote)

/-- A challenge for a wallet. -/
def requestNonce (wallet : String) : Attempt Remote NonceChallenge :=
  ask NonceChallenge.ofPayload .post "/v1/auth/wallet/nonce" "wallet nonce"
    (some (.obj [("wallet_address", .str wallet)])) none

/-- A token for a wallet and its signature. -/
def verifySignature (wallet signature : String) : Attempt Remote VerifiedToken :=
  ask VerifiedToken.ofPayload .post "/v1/auth/wallet/verify" "wallet verify"
    (some (.obj [("wallet_address", .str wallet), ("signature", .str signature)])) none

/-- The owner of a token. -/
def fetchMe (token : String) : Attempt Remote WalletIdentity :=
  ask WalletIdentity.ofPayload .get "/v1/auth/wallet/me" "wallet me" none (some token)

/-- A trade in a request: both intents, both subjects, and the type of proof. -/
def tradeBody (left right : DealerIntent) (proofType : String) : Json :=
  .obj [
    ("intents", .arr [left.built.toJson, right.built.toJson]),
    ("subjects", .arr [left.subject, right.subject]),
    ("proof_type", .str proofType)]

/-- A trade of two parties. -/
def startOrchestration (token : String) (left right : DealerIntent) (proofType : String) :
    Attempt Remote OrchestrationResult :=
  ask OrchestrationResult.ofPayload .post "/v1/orchestrations/otc" "orchestration"
    (some (tradeBody left right proofType)) (some token)

/-- The proof jobs of a run. -/
def fetchProofJobs (run : String) (token : Option String) : Attempt Remote ProofJobsByRun :=
  ask ProofJobsByRun.ofPayload .get ("/v1/proof-jobs/run/" ++ run) "proof-jobs fetch" none token

/-- The remote backend as a backend. -/
def backend : Backend Remote where
  requestNonce := requestNonce
  verifySignature := verifySignature
  fetchMe := fetchMe
  startOrchestration := startOrchestration
  fetchProofJobs := fetchProofJobs

end Remote

end OtcDesk
