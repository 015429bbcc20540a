import OtcDesk.Proofs.Report.Timeline
import OtcDesk.Proofs.Tracker.Isolation
import OtcDesk.Proofs.Tracker.Survival

namespace OtcDesk

namespace View

/-- A view of a run shows the history of its job in order of time. -/
structure ShowsHistory (view : View) : Prop where
  started : view.started = true
  timeline : view.timeline = timelineOf view.job

theorem ShowsHistory.whileLoading {view : View} (shows : view.ShowsHistory) :
    view.whileLoading.ShowsHistory := ⟨shows.started, shows.timeline⟩

/-- Whatever is answered, the history stays that of the job. -/
theorem ShowsHistory.follow {view : View} (shows : view.ShowsHistory)
    (answer : Except Failure ProofJobsByRun) : (view.follow answer).ShowsHistory := by
  unfold View.follow
  split
  · rename_i outcome _
    cases outcome with
    | jobs jobs => exact ⟨shows.started, rfl⟩
    | failed message => exact ⟨shows.started, shows.timeline⟩
  · exact shows

/-- The history of a job has the transitions of the job. -/
theorem mem_timelineOf {job : Option ProofJob} {step : Transition} :
    step ∈ timelineOf job ↔ ∃ shown ∈ job, step ∈ shown.transitions := by
  cases job with
  | none => simp [timelineOf]
  | some shown => simp [timelineOf, orderTimeline, List.mem_mergeSort]

/-- The report of a view names the times of its job's transitions. -/
theorem ShowsHistory.report_names {view : View} (shows : view.ShowsHistory) :
    Report.Names (Report.tracker view) view.timeline := by
  have names := Report.tracker_names view
  cases job : view.job with
  | none =>
      rw [shows.timeline, job]
      rwa [job, Option.isSome_none, if_neg (by simp)] at names
  | some shown => rwa [shows.started, job, Option.isSome_some, if_pos ⟨rfl, rfl⟩] at names

end View

namespace Tracking

variable {σ : Type} {tracking : Tracking σ}

theorem viewAfter_showsHistory (run : String) (exchanges : List Exchange) :
    (viewAfter run exchanges).ShowsHistory := by
  induction exchanges using List.reverseRecOn with
  | nil => exact ⟨rfl, rfl⟩
  | append_singleton earlier last inductionHypothesis =>
      rw [viewAfter_concat]
      exact inductionHypothesis.follow last.answer

/-- When the last deed of a task was to take in an answer, it was that of the last exchange. -/
theorem exists_last_exchange {exchanges : List Exchange} {opening earlier : List Deed}
    (opens : Opening opening) {token : Option String} {answer : Except Failure ProofJobsByRun}
    (same : deedsOf exchanges ++ opening = earlier ++ [.takes token answer]) :
    ∃ before, exchanges = before ++ [⟨token, answer⟩] := by
  cases opens with
  | none =>
      cases exchanges using List.reverseRecOn with
      | nil => simp [deedsOf] at same
      | append_singleton before last =>
          rw [deedsOf_concat, List.append_nil, ← List.singleton_append, ← List.append_assoc] at same
          obtain ⟨-, taken⟩ := List.append_inj' same rfl
          cases last
          cases taken
          exact ⟨before, rfl⟩
  | asked token => simpa using (List.append_inj' same rfl).2
  | balked fault => simpa using (List.append_inj' same rfl).2

/-- A view is reported exactly if the transitions of its job lie in the calendar. -/
theorem accepted_answer_reported_unless_out_of_calendar {activation : Happening σ} {run : String}
    (reachable : tracking.Reachable) (activates : activation.activation? = some (some run))
    {since : List (Happening σ)} (noCalls : ∀ happening ∈ since, happening.isCall = false) :
    let launched := tracking.happen activation
    let view := (launched.after since).tracker.board.view
    ((∃ text, Report.tracker view = .ok text) ↔
      ∀ job ∈ view.job, ∀ step ∈ job.transitions, Instant.InCalendar step.transitionedAt) ∧
    (∀ fault, Report.tracker view = .error fault →
      ∃ job ∈ view.job, ∃ step ∈ job.transitions,
        Instant.render step.transitionedAt = .error fault) ∧
    ∀ earlier token found,
      deedsAlong tracking.tracker.pollers.length launched since =
        earlier ++ [.takes token (.ok found)] →
      view.job = found.jobs.head? := by
  intro launched view
  obtain ⟨-, exchanges, ⟨opening, opens, deeds⟩, shown⟩ :=
    pursuit_shows activates reachable.orderly since noCalls
  change view = _ ∨ view = _ at shown
  have history : view.ShowsHistory := by
    have shows := viewAfter_showsHistory run exchanges
    rcases shown with same | same
    · rw [same]
      exact shows
    · rw [same]
      exact shows.whileLoading
  obtain ⟨isOk, fails⟩ := history.report_names
  refine ⟨?text, ?fault, ?accepted⟩
  case text =>
    rw [isOk, history.timeline]
    simp only [View.mem_timelineOf]
    exact ⟨fun within job shows step member => within step ⟨job, shows, member⟩,
      fun within step ⟨job, shows, member⟩ => within job shows step member⟩
  case fault =>
    intro fault failed
    obtain ⟨step, member, known⟩ := fails fault failed
    rw [history.timeline, View.mem_timelineOf] at member
    obtain ⟨job, shows, member⟩ := member
    exact ⟨job, shows, step, member, known⟩
  case accepted =>
    intro earlier token found taken
    obtain ⟨before, rfl⟩ := exists_last_exchange opens (deeds.symm.trans taken)
    rw [viewAfter_concat] at shown
    rcases shown with same | same <;> exact congrArg View.job same

/-- The answer that the job of a run was published at some moment. -/
def publishedAt (moment : String) : Reply :=
  .response 200 (Utf8.encode ("\x7b\"jobs\": [\x7b\"status\": \"PUBLISHED\", \"transitions\": " ++
    "[\x7b\"to_status\": \"PUBLISHED\", \"transitioned_at\": " ++ moment ++ "\x7d]\x7d]\x7d"))

/-- A job that was published in the last second of the year 9999 is reported. -/
theorem last_second_reported :
    let launched := (fresh 3 {} (replying [publishedAt "253402300799"])).happen (.start "run-1")
    let reached := launched.after [.turn 0 Remote.backend none]
    ∃ text, Report.tracker reached.tracker.board.view = .ok text := by
  intro launched reached
  have reachable : (fresh 3 {} (replying [publishedAt "253402300799"])).Reachable :=
    ⟨3, {}, _, [], rfl⟩
  have activates : (Happening.start "run-1" : Happening Remote).activation? =
      some (some "run-1") := rfl
  have noCalls : ∀ happening ∈ [Happening.turn 0 Remote.backend none],
      happening.isCall = false := by simp [Happening.isCall]
  obtain ⟨reported, -⟩ :=
    accepted_answer_reported_unless_out_of_calendar reachable activates noCalls
  have within : ∀ job ∈ reached.tracker.board.view.job, ∀ step ∈ job.transitions,
      Instant.InCalendar step.transitionedAt := by decide +kernel
  exact reported.mpr within

/-- A job that was published a second later ends the polling, and is not reported. -/
theorem year_ten_thousand_unreported :
    let launched := (fresh 3 {} (replying [publishedAt "253402300800"])).happen (.start "run-1")
    let reached := launched.after [.turn 0 Remote.backend none]
    reached.tracker.pollers.map (·.phase) = [.ended none] ∧
      reached.tracker.board.view.finished = true ∧ reached.tracker.board.view.error = none ∧
      Report.tracker reached.tracker.board.view =
        .error ⟨.badValue, "the year is out of range"⟩ := by
  decide +kernel

end Tracking

end OtcDesk
