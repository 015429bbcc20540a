import Mathlib.Data.List.Basic
import OtcDesk.Proofs.Calendar
import OtcDesk.Report.Text

namespace OtcDesk.Report

/-- A report names the times of some transitions, and fails at nothing else. -/
structure Names {α : Type} (report : Except Fault α) (steps : List Transition) : Prop where
  isOk : (∃ text, report = .ok text) ↔
    ∀ step ∈ steps, Instant.InCalendar step.transitionedAt
  fails : ∀ fault, report = .error fault →
    ∃ step ∈ steps, Instant.render step.transitionedAt = .error fault

namespace Names

variable {α β : Type} {report : Except Fault α} {steps : List Transition}

theorem ok (text : α) : Names (.ok text) [] := by
  constructor
  · simp
  · intro fault failed
    cases failed

/-- What is made of a report names the same times. -/
theorem map (names : Names report steps) (change : α → β) : Names (change <$> report) steps := by
  obtain ⟨isOk, fails⟩ := names
  cases report with
  | error fault =>
      constructor
      · rw [← isOk]
        simp [Functor.map, Except.map]
      · intro other failed
        cases failed
        exact fails fault rfl
  | ok text =>
      constructor
      · rw [← isOk]
        simp [Functor.map, Except.map]
      · intro fault failed
        cases failed

/-- Two reports in turn name the times of both. -/
theorem andThen {next : α → Except Fault β} {later : List Transition} (names : Names report steps)
    (rest : ∀ text, Names (next text) later) : Names (report >>= next) (steps ++ later) := by
  obtain ⟨isOk, fails⟩ := names
  cases report with
  | error fault =>
      obtain ⟨step, member, failed⟩ := fails fault rfl
      have stuck : (Except.error fault >>= next : Except Fault β) = .error fault := rfl
      rw [stuck]
      constructor
      · constructor
        · rintro ⟨text, isText⟩
          cases isText
        · intro within
          obtain ⟨text, isText⟩ := isOk.mpr fun step member =>
            within step (List.mem_append_left later member)
          cases isText
      · intro other same
        cases same
        exact ⟨step, List.mem_append_left later member, failed⟩
  | ok text =>
      obtain ⟨isOkThen, failsThen⟩ := rest text
      have goesOn : (Except.ok text >>= next : Except Fault β) = next text := rfl
      have within := isOk.mp ⟨text, rfl⟩
      rw [goesOn]
      constructor
      · rw [isOkThen, List.forall_mem_append]
        exact ⟨fun later => ⟨within, later⟩, fun both => both.2⟩
      · intro fault failed
        obtain ⟨step, member, known⟩ := failsThen fault failed
        exact ⟨step, List.mem_append_right steps member, known⟩

end Names

theorem transition_names (step : Transition) : Names (transition step) [step] := by
  have rendered : Names (Instant.render step.transitionedAt) [step] := by
    constructor
    · rw [Instant.render_eq_ok_iff]
      simp
    · intro fault failed
      exact ⟨step, List.mem_singleton_self step, failed⟩
  exact rendered.map _

theorem transitions_names (steps : List Transition) : Names (steps.mapM transition) steps := by
  induction steps with
  | nil => exact .ok []
  | cons first rest inductionHypothesis =>
      rw [List.mapM_cons]
      exact (transition_names first).andThen fun line => inductionHypothesis.map (line :: ·)

/-- The lines of a timeline name its times. -/
theorem timelineLines_names (steps : List Transition) : Names (timelineLines steps) steps := by
  unfold timelineLines
  split
  · rename_i empty
    rw [List.isEmpty_iff.mp empty]
    exact .ok []
  · exact ((transitions_names steps).map _).map _

/-- The report of a run names the times of its timeline, if it shows a job. -/
theorem tracker_names (view : View) :
    Names (tracker view) (if view.started ∧ view.job.isSome then view.timeline else []) := by
  unfold tracker
  cases view.started with
  | false => exact .ok _
  | true =>
      cases view.job with
      | none => exact .ok _
      | some job => exact ((timelineLines_names view.timeline).map _).map _

end OtcDesk.Report
