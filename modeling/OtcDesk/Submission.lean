import OtcDesk.Backend.Basic
import OtcDesk.Clock
import OtcDesk.Session.Store

namespace OtcDesk.Submission

/-- The token of a session that still holds. -/
def token (stored : Option WalletSession) (clock : Clock) : Except Failure String :=
  match stored with
  | none => .error (.desk (.noSession DeskError.noSessionMessage))
  | some session =>
    if session.accessToken.isEmpty then .error (.desk (.noSession DeskError.noSessionMessage))
    else
      match isExpired session.expiresAt clock with
      | .error fault => .error (.fault fault)
      | .ok true => .error (.desk (.noSession "wallet session expired; verify access again"))
      | .ok false => .ok session.accessToken

/-- The answer to a trade, where a refusal is an error that carries it. -/
def outcome (result : OrchestrationResult) : Except Failure OrchestrationResult :=
  if result.accepted then .ok result
  else
    .error <| .desk <| .tradeRejected (.ofText? result.errorCode)
      (Text.orElse result.reason DeskError.blockedReason) none (some result)

/-- A trade of two parties is submitted. -/
def submit {σ : Type} (backend : Backend σ) (store : SessionStore) (clock : Clock)
    (proofType : String) (left right : DealerIntent) (state : σ) :
    Noted (Except Failure OrchestrationResult) × σ :=
  let loaded := store.load
  match (loaded.value.mapError .fault).bind (token · clock) with
  | .error failure => ({ value := .error failure, remarks := loaded.remarks }, state)
  | .ok token =>
    let (answer, state) := backend.startOrchestration token left right proofType state
    ({ value := answer.bind outcome, remarks := loaded.remarks }, state)

end OtcDesk.Submission
