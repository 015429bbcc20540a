import OtcDesk.Json.Equality
import OtcDesk.Json.Field

namespace OtcDesk

/-- The intake of one intent, with identifiers as they came. -/
structure IntentSubmission where
  accepted : Bool
  workflowRunId : String
  intentIds : List Json
  commitmentHashes : List Json
  errorCode : Option String
  reason : String
  deriving DecidableEq, Repr

/-- The compliance check of one party. -/
structure ComplianceResult where
  subjectId : String
  passed : Bool
  decision : String
  reasonCode : Option String
  deriving DecidableEq, Repr

/-- The admission of a proof job. -/
structure ProofJobAdmission where
  accepted : Bool
  idempotent : Bool
  replayed : Bool
  jobId : String
  workflowRunId : String
  policyVersion : String
  proofType : String
  errorCode : Option String
  reason : String
  deriving DecidableEq, Repr

/-- The answer to a submitted trade. -/
structure OrchestrationResult where
  accepted : Bool
  workflowRunId : String
  policyVersion : String
  policyHash : String
  attestationId : String
  attestationHash : String
  intentSubmissions : List IntentSubmission
  complianceResults : List ComplianceResult
  proofJob : Option ProofJobAdmission
  errorCode : Option String
  reason : String
  deriving DecidableEq, Repr

open Json

/-- The intake in a payload. -/
def IntentSubmission.ofPayload (payload : Json) : Except Fault IntentSubmission := do
  let data ← payload.fields
  let intentIds ← listField data "intent_ids"
  let commitmentHashes ← listField data "commitment_hashes"
  return {
    accepted := flagField data "accepted"
    workflowRunId := textField data "workflow_run_id"
    intentIds
    commitmentHashes
    errorCode := optionalTextField data "error_code"
    reason := textField data "reason" }

/-- The compliance check in a payload. -/
def ComplianceResult.ofPayload (payload : Json) : Except Fault ComplianceResult := do
  let data ← payload.fields
  return {
    subjectId := textField data "subject_id"
    passed := flagField data "passed"
    decision := textField data "decision"
    reasonCode := optionalTextField data "reason_code" }

/-- The admission in a payload. -/
def ProofJobAdmission.ofPayload (payload : Json) : Except Fault ProofJobAdmission := do
  let data ← payload.fields
  return {
    accepted := flagField data "accepted"
    idempotent := flagField data "idempotent"
    replayed := flagField data "replayed"
    jobId := textField data "job_id"
    workflowRunId := textField data "workflow_run_id"
    policyVersion := textField data "policy_version"
    proofType := textField data "proof_type"
    errorCode := optionalTextField data "error_code"
    reason := textField data "reason" }

/-- The admission in a field; whatever is not an object is no admission. -/
def ProofJobAdmission.ofField? : Option Json → Except Fault (Option ProofJobAdmission)
  | some (.obj fields) => some <$> ofPayload (.obj fields)
  | _ => .ok none

/-- The answer in a payload. -/
def OrchestrationResult.ofPayload (payload : Json) : Except Fault OrchestrationResult := do
  let data ← payload.fields
  let submissions ← listField data "intent_submissions"
  let intentSubmissions ← submissions.mapM IntentSubmission.ofPayload
  let checks ← listField data "compliance_results"
  let complianceResults ← checks.mapM ComplianceResult.ofPayload
  let proofJob ← ProofJobAdmission.ofField? (data.get? "proof_job")
  return {
    accepted := flagField data "accepted"
    workflowRunId := textField data "workflow_run_id"
    policyVersion := textField data "policy_version"
    policyHash := textField data "policy_hash"
    attestationId := textField data "attestation_id"
    attestationHash := textField data "attestation_hash"
    intentSubmissions
    complianceResults
    proofJob
    errorCode := optionalTextField data "error_code"
    reason := textField data "reason" }

/-- The proof is tracked when the run has a name and its proof job was admitted. -/
def OrchestrationResult.shouldTrackProof (result : OrchestrationResult) : Bool :=
  !result.workflowRunId.isEmpty && result.proofJob.any (·.accepted)

end OtcDesk
