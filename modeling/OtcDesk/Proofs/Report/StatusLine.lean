import OtcDesk.Proofs.Text.Control
import OtcDesk.Report.StatusLine

namespace OtcDesk.Report

open Json (Uncontrolled uncontrolled_of_all)
open Text (Relays relays_self relays_of_uncontrolled relays_padEnd relays_toString)

/-- The texts that a line quotes of what went wrong, or else of the job. -/
def quotedNews : Option String → Option ProofJob → List String
  | some error, _ => [error]
  | none, none => []
  | none, some job =>
    Text.cut 16 job.jobId :: job.status :: (Text.given? job.lastErrorCode).toList

/-- The texts that the line of a view quotes. -/
def quotations (view : View) : List String :=
  Text.cut 16 (view.workflowRunId.getD "") :: quotedNews (Text.given? view.error) view.job

theorem head_relays (polls : Int) (run : String) :
    Relays ("#" ++ Text.padEnd 3 (toString polls) ++ " run=" ++ run) [run] := by
  have number : Relays (Text.padEnd 3 (toString polls)) [] := by
    intro mark control
    rw [relays_padEnd 3 _ mark control]
    simpa using relays_toString polls mark control
  have front : Relays ("#" ++ Text.padEnd 3 (toString polls) ++ " run=") [] :=
    (number.after "#" (by decide)).before " run=" (by decide)
  exact front.append (relays_self run)

/-- Without colors, the control characters in the line of a view are those of its quotations. -/
theorem statusText_relays (view : View) : Relays (statusParts view).1 (quotations view) := by
  have head := head_relays view.polls (Text.cut 16 (view.workflowRunId.getD ""))
  unfold statusParts quotations
  cases Text.given? view.error with
  | some error => exact (head.before "  fetch error: " (by decide)).append (relays_self error)
  | none =>
      cases view.job with
      | none => exact head.before "  waiting for proof job" (by decide)
      | some job =>
          have code : Relays (((Text.given? job.lastErrorCode).map ("  error=" ++ ·)).getD "")
              (Text.given? job.lastErrorCode).toList := by
            cases Text.given? job.lastErrorCode with
            | none => exact relays_of_uncontrolled (uncontrolled_of_all (by decide))
            | some code => exact (relays_self code).after "  error=" (by decide)
          have named := (head.before "  job=" (by decide)).append
            (relays_self (Text.cut 16 job.jobId))
          have stands := (named.before "  " (by decide)).append (relays_padEnd 10 job.status)
          have counted := (stands.before "  attempts=" (by decide)).append
            (relays_toString job.attemptCount)
          exact counted.append code

/-- The sequence that sets a style by some codes. -/
def styleSequence (codes : List Nat) : String :=
  "\x1b[" ++ String.intercalate ";" (codes.map toString) ++ "m"

/-- A plain line is colored by one sequence in front and a reset behind, or stays as it is. -/
inductive Painted (plain : String) : String → Prop where
  | bare : Painted plain plain
  | styled (codes : List Nat) (nonempty : codes ≠ []) (setting : 0 ∉ codes) :
      Painted plain (styleSequence codes ++ plain ++ styleSequence [0])

theorem uncontrolled_intercalate {separator : String} (apart : Uncontrolled separator.toList)
    {texts : List String} : (∀ text ∈ texts, Uncontrolled text.toList) →
      Uncontrolled (separator.intercalate texts).toList := by
  induction texts with
  | nil => exact fun _ => uncontrolled_of_all (by simp)
  | cons first later ih =>
      intro plain
      have head := plain first List.mem_cons_self
      cases later with
      | nil =>
          rw [String.intercalate_singleton]
          exact head
      | cons second more =>
          rw [String.intercalate_cons_cons, String.toList_append, String.toList_append]
          exact (head.append apart).append
            (ih fun text member => plain text (List.mem_cons_of_mem _ member))

/-- No line ends in a sequence. -/
theorem newline_not_mem_styleSequence (codes : List Nat) : '\n' ∉ (styleSequence codes).toList := by
  have numbers : Uncontrolled (String.intercalate ";" (codes.map toString)).toList := by
    apply uncontrolled_intercalate (uncontrolled_of_all (by decide))
    intro text member
    obtain ⟨code, _, rfl⟩ := List.mem_map.mp member
    exact Json.uncontrolled_toString code
  intro member
  rw [styleSequence, String.toList_append, String.toList_append, List.mem_append,
    List.mem_append] at member
  rcases member with (opening | number) | closing
  · exact absurd opening (by decide)
  · exact absurd (numbers _ number) (by decide)
  · exact absurd closing (by decide)

/-- Colors neither end a line nor take an end away. -/
theorem Painted.newline_mem_iff {plain line : String} (painted : Painted plain line) :
    '\n' ∈ line.toList ↔ '\n' ∈ plain.toList := by
  cases painted with
  | bare => rfl
  | styled codes => simp [newline_not_mem_styleSequence]

theorem statusColor_ne_zero (status : String) : statusColor status ≠ some 0 := by
  unfold statusColor
  split <;> simp

/-- A paint sets a style, unless its color is that of a reset. -/
theorem Paint.painted (paint : Paint) (colors : paint.color ≠ some 0) (text : String) :
    Painted text (paint.apply true text) := by
  unfold apply
  split
  · exact .bare
  · rename_i changes
    simp only [Bool.not_true, Bool.false_or, List.isEmpty_iff] at changes
    refine .styled paint.codes changes ?_
    intro reset
    rw [codes, List.mem_append] at reset
    rcases reset with bold | color
    · split at bold
      · simp at bold
      · cases bold
    · exact colors (Option.mem_toList.mp color)

theorem statusLine_false (view : View) : statusLine view false = (statusParts view).1 := rfl

/-- A colored line is the plain line, painted or as it is. -/
theorem statusLine_painted (view : View) :
    Painted (statusLine view false) (statusLine view true) := by
  refine Paint.painted (statusParts view).2 ?_ (statusParts view).1
  unfold statusParts
  dsimp only
  split
  · simp
  · simp
  · exact statusColor_ne_zero _

/-- A line ends in the line of a view, with colors or without, exactly if one ends in a quotation. -/
theorem newline_mem_statusLine_iff (view : View) (colored : Bool) :
    '\n' ∈ (statusLine view colored).toList ↔ ∃ text ∈ quotations view, '\n' ∈ text.toList := by
  rw [← statusText_relays view '\n' (by decide), ← statusLine_false]
  cases colored with
  | false => rfl
  | true => exact (statusLine_painted view).newline_mem_iff

/-- There is an escape in the line of a view without colors exactly if there is one in a quotation. -/
theorem escape_mem_statusLine_iff (view : View) :
    '\x1b' ∈ (statusLine view false).toList ↔ ∃ text ∈ quotations view, '\x1b' ∈ text.toList :=
  statusText_relays view '\x1b' (by decide)

end OtcDesk.Report
