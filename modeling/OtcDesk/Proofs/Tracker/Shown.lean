import Mathlib.Data.List.Induction
import OtcDesk.Proofs.Tracker.Course

namespace OtcDesk.Tracking

/-- The tracking survives an answer: a success, an error of the desk, or a malformed answer. -/
def Survives : Except Failure ProofJobsByRun → Prop
  | .ok _ | .error (.desk _) => True
  | .error (.fault fault) => fault.isMalformed = true
  | .error .interrupted => False

/-- A success whose first job is published or has failed. -/
def isTerminal : Except Failure ProofJobsByRun → Bool
  | .ok found => found.jobs.head?.any fun job => job.status = "PUBLISHED" ∨ job.status = "FAILED"
  | .error _ => false

/-- What is said of a failure. -/
def complaint? : Except Failure ProofJobsByRun → Option String
  | .error (.desk error) =>
    some (if error.message = "" then "proof tracker fetch failed" else error.message)
  | .error (.fault fault) => some ("proof-jobs fetch returned malformed response: " ++ fault.text)
  | .ok _ | .error .interrupted => none

/-- The jobs that an answer brings. -/
def jobs? : Except Failure ProofJobsByRun → Option (List ProofJob)
  | .ok found => some found.jobs
  | .error _ => none

/-- The jobs of the last success; there are none before the first. -/
def lastJobs (answers : List (Except Failure ProofJobsByRun)) : List ProofJob :=
  (answers.reverse.findSome? jobs?).getD []

/-- What a view shows of a run after some answers. -/
structure Shows (run : String) (answers : List (Except Failure ProofJobsByRun)) (loading : Bool)
    (view : View) : Prop where
  run : view.workflowRunId = some run
  started : view.started = true
  polls : view.polls = answers.length
  loading : view.loading = loading
  finished : view.finished = answers.getLast?.any isTerminal
  job : view.job = (lastJobs answers).head?
  jobCount : view.jobCount = (lastJobs answers).length
  timeline : view.timeline =
    (((lastJobs answers).head?.map (·.transitions)).map orderTimeline).getD []
  error : view.error = answers.getLast?.bind complaint?
  spoken : view.error ≠ some ""

/-- The answers say all of a view. -/
theorem Shows.unique {run : String} {answers : List (Except Failure ProofJobsByRun)}
    {loading : Bool} {view other : View} (shows : Shows run answers loading view)
    (same : Shows run answers loading other) : view = other := by
  cases view
  cases other
  simp only [View.mk.injEq]
  exact ⟨shows.run.trans same.run.symm, shows.started.trans same.started.symm,
    shows.loading.trans same.loading.symm, shows.finished.trans same.finished.symm,
    shows.job.trans same.job.symm, shows.jobCount.trans same.jobCount.symm,
    shows.timeline.trans same.timeline.symm, shows.error.trans same.error.symm,
    shows.polls.trans same.polls.symm⟩

theorem lastJobs_concat (earlier : List (Except Failure ProofJobsByRun))
    (last : Except Failure ProofJobsByRun) :
    lastJobs (earlier ++ [last]) = (jobs? last).getD (lastJobs earlier) := by
  unfold lastJobs
  rw [List.reverse_append]
  cases last with
  | ok found => rfl
  | error failure => rfl

theorem complaint?_spoken (answer : Except Failure ProofJobsByRun) :
    complaint? answer ≠ some "" := by
  intro silent
  match answer with
  | .ok found => cases silent
  | .error .interrupted => cases silent
  | .error (.fault fault) =>
      have text := congrArg String.toList (Option.some.inj silent)
      simp at text
  | .error (.desk error) =>
      have text := Option.some.inj silent
      split at text
      · exact absurd text (by decide)
      · contradiction

theorem job_isTerminal (job : ProofJob) :
    job.isTerminal = decide (job.status = "PUBLISHED" ∨ job.status = "FAILED") := by
  simp [ProofJob.isTerminal, terminalStatuses, List.contains_eq_mem]

/-- A malformed answer comes to a message that says so. -/
theorem ofAnswer_malformed {fault : Fault} (malformed : fault.isMalformed = true) :
    Outcome.ofAnswer (.error (.fault fault)) =
      .ok (.failed ("proof-jobs fetch returned malformed response: " ++ fault.text)) := by
  rw [Outcome.ofAnswer, if_pos malformed]

/-- What comes of an answer that is survived; it is final exactly if the answer is terminal. -/
theorem outcome_of_survived {answer : Except Failure ProofJobsByRun} (survives : Survives answer) :
    ∃ outcome, Outcome.ofAnswer answer = .ok outcome ∧ outcome.isFinal = isTerminal answer := by
  match answer with
  | .ok found =>
      refine ⟨.jobs found.jobs, rfl, ?_⟩
      simp only [Outcome.isFinal, isTerminal, job_isTerminal]
  | .error (.desk error) => exact ⟨.failed error.message, rfl, rfl⟩
  | .error (.fault fault) => exact ⟨_, ofAnswer_malformed survives, rfl⟩

/-- An answer that comes to something is survived. -/
theorem survives_of_outcome {answer : Except Failure ProofJobsByRun} {outcome : Outcome}
    (read : Outcome.ofAnswer answer = .ok outcome) : Survives answer := by
  match answer with
  | .ok found => trivial
  | .error (.desk error) => trivial
  | .error (.fault fault) =>
      cases malformed : fault.isMalformed with
      | true => exact malformed
      | false => simp [Outcome.ofAnswer, malformed] at read
  | .error .interrupted => cases read

/-- The answers that come to something are those that are survived, final or not. -/
theorem exists_outcome_iff (answer : Except Failure ProofJobsByRun) (final : Bool) :
    (∃ outcome, Outcome.ofAnswer answer = .ok outcome ∧ outcome.isFinal = final) ↔
      Survives answer ∧ isTerminal answer = final := by
  constructor
  · rintro ⟨outcome, read, isFinal⟩
    have survives := survives_of_outcome read
    obtain ⟨same, again, terminal⟩ := outcome_of_survived survives
    obtain rfl := Except.ok.inj (read.symm.trans again)
    exact ⟨survives, terminal.symm.trans isFinal⟩
  · rintro ⟨survives, isFinal⟩
    obtain ⟨outcome, read, terminal⟩ := outcome_of_survived survives
    exact ⟨outcome, read, terminal.trans isFinal⟩

namespace Exchange

theorem goesOn_iff (exchange : Exchange) :
    exchange.GoesOn ↔ Survives exchange.answer ∧ isTerminal exchange.answer = false :=
  exists_outcome_iff exchange.answer false

theorem isFinal_iff (exchange : Exchange) :
    exchange.IsFinal ↔ Survives exchange.answer ∧ isTerminal exchange.answer = true :=
  exists_outcome_iff exchange.answer true

/-- A fatal answer is not survived. -/
theorem IsFatal.not_survives {exchange : Exchange} {failure : Failure}
    (fatal : exchange.IsFatal failure) : ¬ Survives exchange.answer := by
  intro survives
  obtain ⟨outcome, read, _⟩ := outcome_of_survived survives
  rw [IsFatal, read] at fatal
  cases fatal

variable {exchanges : List Exchange}

/-- Exchanges that all let the task go on were survived. -/
theorem survived_of_goOn (goOn : ∀ exchange ∈ exchanges, exchange.GoesOn) :
    ∀ exchange ∈ exchanges, Survives exchange.answer :=
  fun exchange member => (exchange.goesOn_iff.mp (goOn exchange member)).1

/-- Exchanges that all let the task go on brought nothing terminal. -/
theorem unsettled_of_goOn (goOn : ∀ exchange ∈ exchanges, exchange.GoesOn) :
    ∀ exchange ∈ exchanges, isTerminal exchange.answer = false :=
  fun exchange member => (exchange.goesOn_iff.mp (goOn exchange member)).2

variable {earlier : List Exchange} {last : Exchange}

/-- So were those of a task that has come to its end. -/
theorem survived_of_final (goOn : ∀ exchange ∈ earlier, exchange.GoesOn) (final : last.IsFinal) :
    ∀ exchange ∈ earlier ++ [last], Survives exchange.answer := by
  intro exchange member
  rcases List.mem_append.mp member with before | same
  · exact survived_of_goOn goOn exchange before
  · rw [List.mem_singleton.mp same]
    exact (last.isFinal_iff.mp final).1

/-- Nothing before the exchange that ended a task was terminal. -/
theorem unsettled_of_last (goOn : ∀ exchange ∈ earlier, exchange.GoesOn) :
    ∀ exchange ∈ (earlier ++ [last]).dropLast, isTerminal exchange.answer = false := by
  rw [List.dropLast_concat]
  exact unsettled_of_goOn goOn

end Exchange

variable {run : String} {answers : List (Except Failure ProofJobsByRun)} {view : View}

/-- A run that was just started shows no answers. -/
theorem shows_starting (run : String) : Shows run [] false (.starting run) where
  run := rfl
  started := rfl
  polls := rfl
  loading := rfl
  finished := rfl
  job := rfl
  jobCount := rfl
  timeline := rfl
  error := rfl
  spoken := by simp [View.starting]

/-- A poll that begins shows only that it does. -/
theorem Shows.whileLoading {loading : Bool} (shows : Shows run answers loading view) :
    Shows run answers true view.whileLoading :=
  { shows with loading := rfl }

/-- An answer with jobs replaces what was shown of the job and clears the error. -/
theorem Shows.afterAnswer (shows : Shows run answers false view) (found : ProofJobsByRun) :
    Shows run (answers ++ [.ok found]) false (view.afterAnswer found.jobs) := by
  have jobs : lastJobs (answers ++ [.ok found]) = found.jobs := lastJobs_concat answers (.ok found)
  refine ⟨shows.run, shows.started, ?_, rfl, ?_, ?_, ?_, ?_, ?_, ?_⟩
  · simp [View.afterAnswer, shows.polls]
  · simp only [View.afterAnswer, List.getLast?_concat, Option.any_some, isTerminal, job_isTerminal]
  · rw [jobs]
    rfl
  · rw [jobs]
    rfl
  · rw [jobs, Option.map_map]
    rfl
  · rw [List.getLast?_concat]
    rfl
  · simp [View.afterAnswer]

/-- A failure keeps what was shown of the job and is told. -/
theorem Shows.afterFailure (shows : Shows run answers false view) {failure : Failure}
    {message : String} (unfinished : view.finished = false)
    (said : complaint? (.error failure) =
      some (if message.isEmpty then "proof tracker fetch failed" else message)) :
    Shows run (answers ++ [.error failure]) false (view.afterFailure message) := by
  have jobs : lastJobs (answers ++ [.error failure]) = lastJobs answers :=
    lastJobs_concat answers (.error failure)
  refine ⟨shows.run, shows.started, ?_, rfl, ?_, ?_, ?_, ?_, ?_, ?_⟩
  · simp [View.afterFailure, shows.polls]
  · rw [List.getLast?_concat]
    exact unfinished
  · rw [jobs]
    exact shows.job
  · rw [jobs]
    exact shows.jobCount
  · rw [jobs]
    exact shows.timeline
  · rw [List.getLast?_concat, Option.bind_some, said]
    rfl
  · have spoken := complaint?_spoken (.error failure)
    rw [said] at spoken
    exact spoken

/-- What is shown after one more answer that is survived. -/
theorem Shows.follow (shows : Shows run answers false view)
    {answer : Except Failure ProofJobsByRun} (survives : Survives answer)
    (unfinished : view.finished = false) :
    Shows run (answers ++ [answer]) false (view.follow answer) := by
  match answer with
  | .ok found => exact shows.afterAnswer found
  | .error (.desk error) =>
      apply shows.afterFailure unfinished
      simp only [complaint?, String.isEmpty_iff]
  | .error (.fault fault) =>
      rw [View.follow_ok _ (ofAnswer_malformed survives)]
      apply shows.afterFailure unfinished
      have spoken := complaint?_spoken (.error (.fault fault))
      simp only [complaint?, ne_eq, Option.some.injEq] at spoken
      simp only [complaint?, String.isEmpty_iff, spoken, if_false]

/-- What is shown after some exchanges of which none but the last was terminal. -/
theorem viewAfter_shows (run : String) (exchanges : List Exchange)
    (survived : ∀ exchange ∈ exchanges, Survives exchange.answer)
    (unsettled : ∀ exchange ∈ exchanges.dropLast, isTerminal exchange.answer = false) :
    Shows run (exchanges.map (·.answer)) false (viewAfter run exchanges) := by
  induction exchanges using List.reverseRecOn with
  | nil => exact shows_starting run
  | append_singleton earlier last ih =>
      rw [List.dropLast_concat] at unsettled
      have goOn : ∀ exchange ∈ earlier, exchange.GoesOn := by
        intro exchange member
        rw [Exchange.goesOn_iff]
        exact ⟨survived exchange (List.mem_append_left _ member), unsettled exchange member⟩
      have shown := ih (fun exchange member => survived exchange (List.mem_append_left _ member))
        fun exchange member => unsettled exchange (List.dropLast_subset _ member)
      rw [viewAfter_concat, List.map_append]
      exact shown.follow (survived last (List.mem_append_right _ List.mem_cons_self))
        (viewAfter_unfinished run goOn)

/-- What is shown after exchanges of which the last has ended the task. -/
theorem shows_of_final (run : String) {earlier : List Exchange} {last : Exchange}
    (goOn : ∀ exchange ∈ earlier, exchange.GoesOn) (final : last.IsFinal) :
    Shows run ((earlier ++ [last]).map (·.answer)) false (viewAfter run (earlier ++ [last])) :=
  viewAfter_shows run _ (Exchange.survived_of_final goOn final) (Exchange.unsettled_of_last goOn)

/-- A fatal answer shows nothing. -/
theorem viewAfter_of_fatal (run : String) (earlier : List Exchange) {last : Exchange}
    {failure : Failure} (fatal : last.IsFatal failure) :
    viewAfter run (earlier ++ [last]) = viewAfter run earlier := by
  rw [viewAfter_concat, View.follow_error _ fatal]

end OtcDesk.Tracking
