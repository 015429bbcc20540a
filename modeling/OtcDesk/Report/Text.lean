import OtcDesk.Calendar
import OtcDesk.DeskError
import OtcDesk.Record.Login
import OtcDesk.Text.Columns
import OtcDesk.Tracker.View

namespace OtcDesk.Report

/-- A flag as text. -/
def flag (value : Bool) : String := if value then "True" else "False"

/-- The panels, one to a line. -/
def panels (access : PanelAccess) : String :=
  Text.joinLines <| Panel.all.map fun panel =>
    "- " ++ Text.padEnd 11 panel.name ++ " " ++
      (if access.shows panel then "visible" else "hidden")

/-- A login under a role given by name. -/
def loginLines (walletAddress roleName : String) (access : PanelAccess) : String :=
  Text.joinLines ["Wallet: " ++ walletAddress, "Role: " ++ roleName, "Panels:", panels access]

/-- A login, or the lack of one. -/
def login : Option LoginResult → String
  | none => "No wallet session"
  | some result => loginLines result.walletAddress result.role.name result.panels

/-- How many intents were taken in. -/
def intake (result : OrchestrationResult) : String :=
  toString (result.intentSubmissions.countP (·.accepted)) ++ "/" ++
    toString result.intentSubmissions.length ++ " intents accepted"

/-- How many identifiers and commitments the intents received. -/
def matching (result : OrchestrationResult) : String :=
  toString (result.intentSubmissions.flatMap (·.intentIds)).length ++ " intent ids, " ++
    toString (result.intentSubmissions.flatMap (·.commitmentHashes)).length ++ " commitments"

/-- How many parties passed, if any was checked. -/
def compliance (result : OrchestrationResult) : Option String :=
  if result.complianceResults.isEmpty then none
  else
    some <|
      toString (result.complianceResults.countP (·.passed)) ++ "/" ++
        toString result.complianceResults.length ++ " parties passed"

/-- The check of one party. -/
def party (check : ComplianceResult) : String :=
  let code := ((Text.given? check.reasonCode).map fun code => " (" ++ code ++ ")").getD ""
  "- " ++ check.subjectId ++ ": " ++ check.decision ++ code

/-- The admission of the proof job. -/
def admission : Option ProofJobAdmission → String
  | none => "Proof job: none"
  | some job =>
    Text.stripEnd <|
      "Proof job: " ++ Text.orElse job.jobId "-" ++ " accepted=" ++ flag job.accepted ++ " " ++
        job.reason

/-- The refusal of a trade. -/
def refusal (result : OrchestrationResult) : DeskError :=
  .rejection (.ofText? result.errorCode) (Text.orElse result.reason DeskError.blockedReason) none

/-- A submitted trade. -/
def orchestration (result : OrchestrationResult) : String :=
  Text.joinLines <|
    ["Run: " ++ result.workflowRunId,
      "Accepted: " ++ flag result.accepted,
      Text.stripEnd ("Policy: " ++ result.policyVersion ++ " " ++ result.policyHash),
      "Intake: " ++ intake result,
      "Match: " ++ matching result] ++
    ((compliance result).map ("Compliance: " ++ ·)).toList ++
    result.complianceResults.map party ++
    [admission result.proofJob] ++
    (if result.accepted then [] else ["Error: " ++ (refusal result).message])

/-- One line of a timeline. -/
def transition (step : Transition) : Except Fault String := do
  let error := ((Text.given? step.errorCode).map (" error=" ++ ·)).getD ""
  let instant ← Instant.render step.transitionedAt
  return instant ++ "  " ++ Text.padStart 10 ((Text.given? step.fromStatus).getD "-") ++ " -> " ++
    step.toStatus ++ error

/-- A timeline, one transition to a line. -/
def timeline (transitions : List Transition) : Except Fault String :=
  Text.joinLines <$> transitions.mapM transition

/-- The last error of a job, if it has one. -/
def lastError (job : ProofJob) : List String :=
  let code := Text.given? job.lastErrorCode
  let message := Text.given? job.lastErrorMessage
  if code.isNone && message.isNone then []
  else [Text.stripEnd ("Last error: [" ++ code.getD "-" ++ "] " ++ message.getD "")]

/-- A duration in milliseconds, if it is known. -/
def duration (name : String) (milliseconds : Option Int) : List String :=
  (milliseconds.map fun count => name ++ ": " ++ toString count ++ " ms").toList

/-- A job without its history. -/
def jobLines (job : ProofJob) : List String :=
  ["Job: " ++ job.jobId ++ " (" ++ job.proofType ++ ", policy " ++ job.policyVersion ++ ")",
    "Status: " ++ job.status,
    "Attempts: " ++ toString job.attemptCount ++ " retries=" ++ toString job.retryCount ++
      " retry_scheduled=" ++ flag job.retryScheduled] ++
  duration "Queue latency" job.queueLatencyMs ++
  duration "Prove duration" job.proveDurationMs ++
  lastError job

/-- The history under its heading, if there is any. -/
def timelineLines (transitions : List Transition) : Except Fault (List String) :=
  if transitions.isEmpty then .ok []
  else (fun text => ["Timeline:", text]) <$> timeline transitions

/-- A tracked run. -/
def tracker (view : View) : Except Fault String := do
  if !view.started then return "Proof tracking not started"
  let body ←
    match view.job with
    | none => pure ["No proof job yet"]
    | some job => (jobLines job ++ ·) <$> timelineLines view.timeline
  let failure := ((Text.given? view.error).map ("Fetch error: " ++ ·)).toList
  return Text.joinLines (("Run: " ++ view.workflowRunId.getD "None") :: body ++ failure)

end OtcDesk.Report
