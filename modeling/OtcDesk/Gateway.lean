import OtcDesk.Backend.Practice
import OtcDesk.Backend.Remote

namespace OtcDesk

/-- A backend of either kind. -/
inductive Gateway where
  | practice (kept : Practice)
  | remote (kept : Remote)
  deriving DecidableEq, Repr

namespace Gateway

/-- A gateway and the randomness beside it. -/
abbrev State := Gateway × Entropy

/-- A question is put to whichever backend there is. -/
def ask {α : Type} (practising : Attempt Practice.State α) (remotely : Attempt Remote α) :
    Attempt State α := fun (gateway, entropy) =>
  match gateway with
  | .practice kept =>
    let (answer, kept, entropy) := practising (kept, entropy)
    (answer, .practice kept, entropy)
  | .remote kept =>
    let (answer, kept) := remotely kept
    (answer, .remote kept, entropy)

/-- The gateway as a backend. -/
def backend (clock : Clock) : Backend State where
  requestNonce wallet := ask (Practice.requestNonce clock wallet) (Remote.requestNonce wallet)
  verifySignature wallet signature :=
    ask (Practice.verifySignature clock wallet signature) (Remote.verifySignature wallet signature)
  fetchMe token := ask (Practice.fetchMe token) (Remote.fetchMe token)
  startOrchestration token left right proofType :=
    ask (Practice.startOrchestration token left right proofType)
      (Remote.startOrchestration token left right proofType)
  fetchProofJobs run token :=
    ask (Practice.fetchProofJobs clock run) (Remote.fetchProofJobs run token)

/-- The names of the questions put to a practice backend. -/
def calls : Gateway → List String
  | .practice kept => kept.calls
  | .remote _ => []

/-- The requests made to a remote backend. -/
def requests : Gateway → List Request
  | .practice _ => []
  | .remote kept => kept.requests

end Gateway

end OtcDesk
