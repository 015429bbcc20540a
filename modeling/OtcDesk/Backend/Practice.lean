import OtcDesk.Backend.Basic
import OtcDesk.Clock
import OtcDesk.Entropy

namespace OtcDesk

/-- The practice backend: its settings, open challenges, tokens and what it was asked. -/
structure Practice where
  roles : Table String := []
  defaultRole : String := "dealer"
  tokenTtlSecs : Int := 3600
  orchestration : Option Json := none
  proofSnapshots : List Json := []
  pending : Table String := []
  tokens : Table String := []
  polls : Nat := 0
  calls : List String := []
  deriving DecidableEq, Repr

namespace Practice

/-- The practice backend and the randomness that it draws from. -/
abbrev State := Practice × Entropy

/-- A question is noted. -/
def note (call : String) (state : State) : State :=
  ({ state.1 with calls := state.1.calls ++ [call] }, state.2)

/-- The role of a wallet. -/
def roleOf (practice : Practice) (wallet : String) : String :=
  (practice.roles.get? wallet).getD practice.defaultRole

/-- A challenge for a wallet replaces the open one, if any. -/
def requestNonce (clock : Clock) (wallet : String) : Attempt State NonceChallenge := fun state =>
  let (practice, entropy) := note "nonce" state
  let (id, entropy) := entropy.uuid
  match clock.seconds with
  | .error fault => (.error (.fault fault), (practice, entropy))
  | .ok issuedAt =>
    let message := loginMessage wallet id.hex issuedAt 1
    let practice := { practice with pending := practice.pending.put wallet message }
    match clock.seconds with
    | .error fault => (.error (.fault fault), (practice, entropy))
    | .ok now =>
      (.ok {
          accepted := true
          walletAddress := wallet
          nonce := id.hex
          message
          expiresAt := now + 300 },
        (practice, entropy))

/-- A token is issued to a wallet. -/
def issueToken (wallet : String) (state : State) : String × State :=
  let (practice, entropy) := state
  let (id, entropy) := entropy.uuid
  let token := "fake-" ++ id.hex
  (token, ({ practice with tokens := practice.tokens.put token wallet }, entropy))

/-- A signature uses up the challenge of its wallet, and is refused without one. -/
def verifySignature (clock : Clock) (wallet signature : String) : Attempt State VerifiedToken :=
  fun state =>
    let (practice, entropy) := note "verify" state
    let challenged := (practice.pending.get? wallet).isSome
    let practice := { practice with pending := practice.pending.erase wallet }
    if !challenged || signature.isEmpty then
      (.ok {
          accepted := false
          accessToken := ""
          walletAddress := wallet
          role := ""
          expiresAt := 0
          errorCode := some "NONCE_NOT_FOUND"
          reason := "nonce not found or already used" },
        (practice, entropy))
    else
      let (token, (practice, entropy)) := issueToken wallet (practice, entropy)
      match clock.seconds with
      | .error fault => (.error (.fault fault), (practice, entropy))
      | .ok now =>
        (.ok {
            accepted := true
            accessToken := token
            walletAddress := wallet
            role := practice.roleOf wallet
            expiresAt := now + practice.tokenTtlSecs },
          (practice, entropy))

/-- A token names its owner. -/
def fetchMe (token : String) : Attempt State WalletIdentity := fun state =>
  let state := note "me" state
  match state.1.tokens.get? token with
  | none =>
    (.ok {
        authenticated := false
        walletAddress := ""
        role := ""
        errorCode := some "INVALID_TOKEN"
        reason := "wallet session is not authenticated" },
      state)
  | some wallet =>
    (.ok { authenticated := true, walletAddress := wallet, role := state.1.roleOf wallet }, state)

/-- The intake of a party's intent. -/
def submission (run : String) (party : DealerIntent) (commitment : Uuid) : IntentSubmission where
  accepted := true
  workflowRunId := run
  intentIds := [.str ("intent-" ++ party.counterpartyId)]
  commitmentHashes := [.str ("0x" ++ commitment.hex)]
  errorCode := none
  reason := "accepted"

/-- The compliance check of a party. -/
def check (party : DealerIntent) : ComplianceResult where
  subjectId := party.counterpartyId
  passed := true
  decision := "ALLOW"
  reasonCode := none

/-- The answer to a trade that is accepted. -/
def acceptance (run : String) (left right : DealerIntent) (leftId rightId : Uuid)
    (proofType : String) : OrchestrationResult where
  accepted := true
  workflowRunId := run
  policyVersion := "v1"
  policyHash := ""
  attestationId := ""
  attestationHash := ""
  intentSubmissions := [submission run left leftId, submission run right rightId]
  complianceResults := [check left, check right]
  proofJob := some {
    accepted := true
    idempotent := false
    replayed := false
    jobId := "job-" ++ run
    workflowRunId := run
    policyVersion := "v1"
    proofType
    errorCode := none
    reason := "queued" }
  errorCode := none
  reason := "orchestration started"

/-- A trade is accepted under a known token, unless an answer was set beforehand. -/
def startOrchestration (token : String) (left right : DealerIntent) (proofType : String) :
    Attempt State OrchestrationResult := fun state =>
  let (practice, entropy) := note "orchestrate" state
  if (practice.tokens.get? token).isNone then
    (.error (.desk (.rejection (.str "UNAUTHORIZED") "invalid bearer token" (some 401))),
      (practice, entropy))
  else
    match practice.orchestration with
    | some payload =>
      let answer := Backend.readAnswer OrchestrationResult.ofPayload payload "orchestration"
      (answer, (practice, entropy))
    | none =>
      let (id, entropy) := entropy.uuid
      let (leftId, entropy) := entropy.uuid
      let (rightId, entropy) := entropy.uuid
      let run := "run-" ++ String.ofList (id.digits.take 12)
      (.ok (acceptance run left right leftId rightId proofType), (practice, entropy))

/-- The statuses that a proof job walks through. -/
def progression : List String := ["QUEUED", "PROVING", "PUBLISHED"]

/-- The history of a job that has reached a step, one second for each step. -/
def history (now : Int) (step : Nat) : List Transition :=
  (List.range (step + 1)).map fun i => {
    fromStatus := if i = 0 then none else progression[i - 1]?
    toStatus := progression.getD i ""
    transitionedAt := now - (step - i : Nat) }

/-- The job of a run that has reached a step. -/
def jobAt (run : String) (now : Int) (step : Nat) : ProofJob where
  jobId := "job-" ++ run
  workflowRunId := run
  policyVersion := "v1"
  proofType := Backend.defaultProofType
  status := progression.getD step ""
  attemptCount := 1
  retryCount := 0
  retryScheduled := false
  queueLatencyMs := none
  proveDurationMs := none
  transitions := history now step
  lastErrorCode := none
  lastErrorMessage := none

/-- The proof jobs of the next snapshot, or else one job a step further each time. -/
def fetchProofJobs (clock : Clock) (run : String) : Attempt State ProofJobsByRun := fun state =>
  let (practice, entropy) := note "proof_jobs" state
  match practice.proofSnapshots with
  | snapshot :: later =>
    let practice := if later.isEmpty then practice else { practice with proofSnapshots := later }
    (Backend.readAnswer ProofJobsByRun.ofPayload snapshot "proof-jobs fetch", (practice, entropy))
  | [] =>
    let step := min practice.polls (progression.length - 1)
    let practice := { practice with polls := practice.polls + 1 }
    match clock.seconds with
    | .error fault => (.error (.fault fault), (practice, entropy))
    | .ok now =>
      (.ok {
          found := true
          workflowRunId := run
          jobs := [jobAt run now step]
          errorCode := none
          reason := "ok" },
        (practice, entropy))

/-- The practice backend as a backend. -/
def backend (clock : Clock) : Backend State where
  requestNonce := requestNonce clock
  verifySignature := verifySignature clock
  fetchMe := fetchMe
  startOrchestration := startOrchestration
  fetchProofJobs run _ := fetchProofJobs clock run

end Practice

end OtcDesk
