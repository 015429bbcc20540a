import OtcDesk.Record.Proof

namespace OtcDesk

/-- The transitions in order of time; those of one instant stay in order of arrival. -/
def orderTimeline (transitions : List Transition) : List Transition :=
  transitions.mergeSort fun early late => early.transitionedAt ≤ late.transitionedAt

/-- The visible state of a tracker. -/
structure View where
  workflowRunId : Option String := none
  started : Bool := false
  loading : Bool := false
  finished : Bool := false
  job : Option ProofJob := none
  jobCount : Int := 0
  timeline : List Transition := []
  error : Option String := none
  polls : Int := 0
  deriving DecidableEq, Repr

namespace View

/-- Nothing is tracked. -/
def idle : View := {}

/-- A run is tracked from now on. -/
def starting (run : String) : View := { workflowRunId := some run, started := true }

/-- A poll is under way. -/
def whileLoading (view : View) : View := { view with loading := true }

/-- The history of a job in order of time, empty without a job. -/
def timelineOf (job : Option ProofJob) : List Transition :=
  (job.map fun job => orderTimeline job.transitions).getD []

/-- A poll brought the jobs of the run, of which the first is shown. -/
def afterAnswer (view : View) (jobs : List ProofJob) : View :=
  { view with
    loading := false
    finished := jobs.head?.any (·.isTerminal)
    job := jobs.head?
    jobCount := jobs.length
    timeline := timelineOf jobs.head?
    error := none
    polls := view.polls + 1 }

/-- A poll failed; what was known stays. -/
def afterFailure (view : View) (message : String) : View :=
  { view with
    loading := false
    error := some (if message.isEmpty then "proof tracker fetch failed" else message)
    polls := view.polls + 1 }

end View

end OtcDesk
