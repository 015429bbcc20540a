import OtcDesk.Attempt
import OtcDesk.Tracker.View
import OtcDesk.Warning

namespace OtcDesk

/-- What comes of a poll. -/
inductive Outcome where
  | jobs (jobs : List ProofJob)
  | failed (message : String)
  deriving DecidableEq, Repr

namespace Outcome

/-- The outcome of an answer, where errors of the desk and malformed answers are survived. -/
def ofAnswer : Except Failure ProofJobsByRun → Except Failure Outcome
  | .ok answer => .ok (.jobs answer.jobs)
  | .error (.desk error) => .ok (.failed error.message)
  | .error (.fault fault) =>
    if fault.isMalformed then
      .ok (.failed ("proof-jobs fetch returned malformed response: " ++ fault.text))
    else .error (.fault fault)
  | .error .interrupted => .error .interrupted

/-- What is remarked upon: further jobs that are not shown, and failures. -/
def remarks (run : String) : Outcome → List Warning
  | .jobs (first :: _ :: rest) => [.severalJobs run (rest.length + 2) first.jobId]
  | .jobs _ => []
  | .failed message => [.fetchFailed run message]

end Outcome

/-- The view after a poll. -/
def View.after (view : View) : Outcome → View
  | .jobs jobs => view.afterAnswer jobs
  | .failed message => view.afterFailure message

end OtcDesk
