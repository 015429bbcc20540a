import OtcDesk.Json.Field

namespace OtcDesk

/-- A job changes its status. -/
structure Transition where
  fromStatus : Option String
  toStatus : String
  transitionedAt : Int
  errorCode : Option String := none
  deriving DecidableEq, Repr

/-- A proof job. -/
structure ProofJob where
  jobId : String
  workflowRunId : String
  policyVersion : String
  proofType : String
  status : String
  attemptCount : Int
  retryCount : Int
  retryScheduled : Bool
  queueLatencyMs : Option Int
  proveDurationMs : Option Int
  transitions : List Transition
  lastErrorCode : Option String
  lastErrorMessage : Option String
  deriving DecidableEq, Repr

/-- The proof jobs of a run. -/
structure ProofJobsByRun where
  found : Bool
  workflowRunId : String
  jobs : List ProofJob
  errorCode : Option String
  reason : String
  deriving DecidableEq, Repr

open Json

/-- The integer of a field; a missing field is zero, and null is no integer. -/
def Transition.instant (data : Table Json) (key : String) : Except Fault Int :=
  match data.get? key with
  | some value => value.toInt
  | none => .ok 0

/-- The transition in a payload. -/
def Transition.ofPayload (payload : Json) : Except Fault Transition := do
  let data ← payload.fields
  let transitionedAt ← instant data "transitioned_at"
  return {
    fromStatus := optionalTextField data "from_status"
    toStatus := textField data "to_status"
    transitionedAt
    errorCode := optionalTextField data "error_code" }

/-- The job in a payload, with its status in upper case. -/
def ProofJob.ofPayload (payload : Json) : Except Fault ProofJob := do
  let data ← payload.fields
  let attemptCount ← integerField data "attempt_count"
  let retryCount ← integerField data "retry_count"
  let queueLatencyMs ← optionalIntegerField data "queue_latency_ms"
  let proveDurationMs ← optionalIntegerField data "prove_duration_ms"
  let transitions ← (← listField data "transitions").mapM Transition.ofPayload
  return {
    jobId := textField data "job_id"
    workflowRunId := textField data "workflow_run_id"
    policyVersion := textField data "policy_version"
    proofType := textField data "proof_type"
    status := Text.upper (textField data "status")
    attemptCount
    retryCount
    retryScheduled := flagField data "retry_scheduled"
    queueLatencyMs
    proveDurationMs
    transitions
    lastErrorCode := optionalTextField data "last_error_code"
    lastErrorMessage := optionalTextField data "last_error_message" }

/-- The jobs in a payload. -/
def ProofJobsByRun.ofPayload (payload : Json) : Except Fault ProofJobsByRun := do
  let data ← payload.fields
  let jobs ← (← listField data "jobs").mapM ProofJob.ofPayload
  return {
    found := flagField data "found"
    workflowRunId := textField data "workflow_run_id"
    jobs
    errorCode := optionalTextField data "error_code"
    reason := textField data "reason" }

/-- A job in one of these statuses changes no more. -/
def terminalStatuses : List String := ["PUBLISHED", "FAILED"]

/-- The job changes no more. -/
def ProofJob.isTerminal (job : ProofJob) : Bool := terminalStatuses.contains job.status

end OtcDesk
