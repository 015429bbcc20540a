import OtcDesk.Login
import OtcDesk.Submission
import OtcDesk.Tracker.Polling

namespace OtcDesk

/-- A desk shares one store between its login and its tracker. -/
structure Desk (σ : Type) where
  login : Login
  tracking : Tracking σ
  clock : Clock
  proofType : String := Backend.defaultProofType
  trackerHasStore : Bool := true

namespace Desk

variable {σ : Type} (backendAt : Clock → Backend σ)

/-- The store that the tracker takes tokens from, if it has one. -/
def trackerStore (desk : Desk σ) : Option SessionStore :=
  if desk.trackerHasStore then some desk.login.store else none

/-- The backend is in another state. -/
def withBackend (desk : Desk σ) (backend : σ) : Desk σ :=
  { desk with tracking := { desk.tracking with backend } }

/-- Something is done to the login. -/
def onLogin {α : Type} (attempt : Attempt Login α) : Attempt (Desk σ) α := fun desk =>
  let (result, login) := attempt desk.login
  (result, { desk with login })

/-- Something is done to the tracker. -/
def onTracker (desk : Desk σ) (change : Tracker → Tracker) : Desk σ :=
  { desk with tracking := desk.tracking.onTracker change }

/-- A wallet is verified. -/
def verify {ρ : Type} (signer : Signer ρ) (address : Option String) :
    Attempt (Desk σ × ρ) LoginResult := fun (desk, wallet) =>
  let (result, login, backend, wallet) :=
    Login.verify (backendAt desk.clock) signer address (desk.login, desk.tracking.backend, wallet)
  (result, { desk.withBackend backend with login }, wallet)

/-- The stored login is restored. -/
def restore : Attempt (Desk σ) (Option LoginResult) := fun desk =>
  let (result, login, backend) :=
    Login.restore (backendAt desk.clock) desk.clock (desk.login, desk.tracking.backend)
  (result, { desk.withBackend backend with login })

/-- A trade of two parties is submitted. -/
def submit (left right : DealerIntent) : Attempt (Desk σ) OrchestrationResult := fun desk =>
  let (answer, backend) :=
    Submission.submit (backendAt desk.clock) desk.login.store desk.clock desk.proofType left right
      desk.tracking.backend
  let login := { desk.login with remarks := desk.login.remarks ++ answer.remarks }
  (answer.value, { desk.withBackend backend with login })

/-- The tracking of a run starts. -/
def start (desk : Desk σ) (run : String) : Desk σ := desk.onTracker (·.start run)

/-- The tracking ends. -/
def cancel (desk : Desk σ) : Desk σ := desk.onTracker (·.cancel)

/-- A submitted trade is tracked, if its proof is to be. -/
def track (desk : Desk σ) (result : OrchestrationResult) : Bool × Desk σ :=
  let (tracked, tracker) := desk.tracking.tracker.track result
  (tracked, desk.onTracker fun _ => tracker)

/-- Time moves on by some seconds. -/
def advance (turns : Nat) (seconds : Rat) (desk : Desk σ) : Option (Desk σ) :=
  (desk.tracking.advance (backendAt desk.clock) desk.trackerStore turns seconds).map
    fun tracking => { desk with tracking }

/-- A result and the tracking behind it, as a result and the desk behind it. -/
def rejoin {α : Type} (desk : Desk σ) (outcome : Option (Except Failure α × Tracking σ)) :
    Option (Except Failure α × Desk σ) :=
  outcome.map fun (result, tracking) => (result, { desk with tracking })

/-- The caller waits until the tracking has ended. -/
def wait (turns : Nat) (desk : Desk σ) : Option (Except Failure View × Desk σ) :=
  desk.rejoin (desk.tracking.wait (backendAt desk.clock) desk.trackerStore turns)

/-- A listener waits while the tracking is cancelled after some seconds. -/
def waitCancel (turns : Nat) (seconds : Rat) (desk : Desk σ) :
    Option (Except Failure View × Desk σ) :=
  desk.rejoin (desk.tracking.waitCancel (backendAt desk.clock) desk.trackerStore turns seconds)

/-- The caller fetches the proof jobs of a run itself. -/
def fetchDirectly (turns : Nat) (run : String) (token : Option String) (desk : Desk σ) :
    Option (Except Failure ProofJobsByRun × Desk σ) :=
  desk.rejoin
    (desk.tracking.fetchDirectly (backendAt desk.clock) desk.trackerStore turns run token)

end Desk

end OtcDesk
