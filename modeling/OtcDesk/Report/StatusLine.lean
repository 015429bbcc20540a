import OtcDesk.Table
import OtcDesk.Text.Blank
import OtcDesk.Text.Case
import OtcDesk.Text.Columns
import OtcDesk.Tracker.View

namespace OtcDesk.Report

/-- Colors are used when asked for, or on a terminal unless the environment forbids them. -/
def usesColor (mode : Option String) (onTerminal : Bool) (environment : Table String) : Bool :=
  let asked := Text.strip (Text.lower ((Text.given? mode).getD "auto"))
  if asked = "never" then false
  else if asked = "always" then true
  else onTerminal && (Text.given? (environment.get? "NO_COLOR")).isNone

/-- How a text is set off: its color, if any, and whether it is bold. -/
structure Paint where
  color : Option Nat
  bold : Bool := false
  deriving DecidableEq, Repr

namespace Paint

/-- The codes of a paint. -/
def codes (paint : Paint) : List Nat := (if paint.bold then [1] else []) ++ paint.color.toList

/-- The sequence that switches a paint on. -/
def opening (paint : Paint) : String :=
  "\x1b[" ++ String.intercalate ";" (paint.codes.map toString) ++ "m"

/-- The sequence that switches every paint off. -/
def closing : String := "\x1b[0m"

/-- The text in a paint, when colors are used and the paint changes anything. -/
def apply (paint : Paint) (colored : Bool) (text : String) : String :=
  if !colored || paint.codes.isEmpty then text else paint.opening ++ text ++ closing

end Paint

/-- The color of a status. -/
def statusColor : String → Option Nat
  | "QUEUED" => some 90
  | "PROVING" => some 36
  | "PROVED" => some 34
  | "PUBLISHING" => some 35
  | "PUBLISHED" => some 32
  | "FAILED" => some 31
  | _ => none

/-- The line of a view without colors, and the paint for it. -/
def statusParts (view : View) : String × Paint :=
  let head :=
    "#" ++ Text.padEnd 3 (toString view.polls) ++ " run=" ++
      Text.cut 16 (view.workflowRunId.getD "")
  match Text.given? view.error, view.job with
  | some error, _ => (head ++ "  fetch error: " ++ error, { color := some 33 })
  | none, none => (head ++ "  waiting for proof job", { color := some 90 })
  | none, some job =>
    let error := ((Text.given? job.lastErrorCode).map ("  error=" ++ ·)).getD ""
    (head ++ "  job=" ++ Text.cut 16 job.jobId ++ "  " ++ Text.padEnd 10 job.status ++
        "  attempts=" ++ toString job.attemptCount ++ error,
      { color := statusColor job.status, bold := job.isTerminal })

/-- The line of a view. -/
def statusLine (view : View) (colored : Bool) : String :=
  let (text, paint) := statusParts view
  paint.apply colored text

end OtcDesk.Report
