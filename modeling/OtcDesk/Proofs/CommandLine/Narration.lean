import OtcDesk.Proofs.CommandLine.StatusLines
import OtcDesk.Proofs.CommandLine.Submitting
import OtcDesk.Proofs.Report.StatusLine

namespace OtcDesk.CommandLine.Shell

open Tracking

variable {shell : Shell} {config : Config} {run : String} {token : Option String}
  {answers : List (Except Failure ProofJobsByRun)} {gateway : Gateway.State}

@[simp] theorem output_remark (shell : Shell) (remarks : List Warning) :
    (shell.remark remarks).output = shell.output := rfl

@[simp] theorem output_keepGateway (shell : Shell) (state : Gateway.State) :
    (shell.keepGateway state).output = shell.output := by
  obtain ⟨_ | _, _⟩ := state <;> rfl

@[simp] theorem canPrint_remark (shell : Shell) (remarks : List Warning) :
    (shell.remark remarks).canPrint = shell.canPrint := rfl

@[simp] theorem canPrint_keepGateway (shell : Shell) (state : Gateway.State) :
    (shell.keepGateway state).canPrint = shell.canPrint := by
  obtain ⟨_ | _, _⟩ := state <;> rfl

/-- Texts stand below what was printed before, one to a line. -/
def below (before : String) (texts : List String) : String :=
  before ++ String.join (texts.map (· ++ "\n"))

/-- Views tell the polls of a run one by one, and the report is that of the last. -/
structure Narrates (run : String) (answers : List (Except Failure ProofJobsByRun))
    (views : List View) (report : String) : Prop where
  length : views.length = answers.length
  shows : ∀ k view, views[k]? = some view → Shows run (answers.take (k + 1)) false view
  numbered : ∀ k view, views[k]? = some view →
    ("#" ++ toString (k + 1) ++ " ").toList <+: (Report.statusLine view false).toList
  last : ∃ view, views.getLast? = some view ∧ Report.tracker view = .ok report

/-- A run was followed with a line for each poll and a report, as far as these can be printed. -/
def Follows (shell : Shell) (config : Config) (color : String) (run : String) (token : Option String)
    (answers : List (Except Failure ProofJobsByRun)) (launched : Tracking Gateway.State)
    (before : String) (ended : Except Failure Nat × Shell) : Prop :=
  let fetches := (shell.watch config color launched).tracker.fetches
  ∃ views report, Narrates run answers views report ∧
    let texts := views.map (shell.line color) ++ [report]
    ((∀ text ∈ texts, shell.canPrint text = true) ∧
      ended.1 = .ok 0 ∧ ended.2.output = below before texts ∧
      fetches = List.replicate answers.length (run, token)) ∨
    ∃ printed text later, texts = printed ++ text :: later ∧
      (∀ earlier ∈ printed, shell.canPrint earlier = true) ∧ shell.canPrint text = false ∧
      ended.1 = .error (.fault unprintable) ∧ ended.2.output = below before printed ∧
      fetches = List.replicate (min (printed.length + 1) answers.length) (run, token)

end OtcDesk.CommandLine.Shell
