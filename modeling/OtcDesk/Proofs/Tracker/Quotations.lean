import OtcDesk.Proofs.Backend.Refusals
import OtcDesk.Proofs.Report.StatusLine
import OtcDesk.Proofs.Tracker.Isolation
import OtcDesk.Proofs.Tracker.Survival

namespace OtcDesk.Tracking

open Text (Relays)

variable {σ : Type}

/-- A view tells the answers that its task has survived; whatever else the task took in was not. -/
structure TellsAnswers (run : String) (deeds : List Deed) (exchanges : List Exchange) (view : View) :
    Prop where
  deeds : ∃ rest, deeds = deedsOf exchanges ++ rest ∧
    ∀ token answer, .takes token answer ∈ rest → ¬ Survives answer
  survived : ∀ exchange ∈ exchanges, Survives exchange.answer
  shows : ∃ loading, Shows run (exchanges.map (·.answer)) loading view

/-- A task that went on after some exchanges, and survived nothing since, tells their answers. -/
theorem tellsAnswers_of_goOn {run : String} {exchanges : List Exchange} {rest : List Deed}
    {loading : Bool} {view : View} (goOn : ∀ exchange ∈ exchanges, exchange.GoesOn)
    (lost : ∀ token answer, .takes token answer ∈ rest → ¬ Survives answer)
    (shows : Shows run (exchanges.map (·.answer)) loading view) :
    TellsAnswers run (deedsOf exchanges ++ rest) exchanges view where
  deeds := ⟨rest, rfl, lost⟩
  survived := Exchange.survived_of_goOn goOn
  shows := ⟨loading, shows⟩

/-- At every point of its course, a task tells the answers that it has survived. -/
theorem Course.tellsAnswers {run : String} {deeds : List Deed} {exchanges : List Exchange}
    {view : View} {phase : PollerPhase} (course : Course run deeds exchanges view phase) :
    ∃ told, TellsAnswers run deeds told view := by
  cases course with
  | unbegun =>
      have none_ : ∀ exchange ∈ ([] : List Exchange), exchange.GoesOn := by simp
      have told : TellsAnswers run (deedsOf [] ++ []) [] (.starting run) :=
        tellsAnswers_of_goOn none_ (by simp) (shows_starting run)
      exact ⟨[], told⟩
  | waiting exchanges goOn token onTheWay due =>
      exact ⟨exchanges, tellsAnswers_of_goOn goOn (by simp) (shows_of_goOn run goOn).whileLoading⟩
  | resting exchanges goOn =>
      rw [← List.append_nil (deedsOf exchanges)]
      exact ⟨exchanges, tellsAnswers_of_goOn goOn (by simp) (shows_of_goOn run goOn)⟩
  | finished earlier last goOn final =>
      exact ⟨earlier ++ [last], ⟨[], (List.append_nil _).symm, by simp⟩,
        Exchange.survived_of_final goOn final, false, shows_of_final run goOn final⟩
  | balked exchanges goOn fault =>
      exact ⟨exchanges, tellsAnswers_of_goOn goOn (by simp) (shows_of_goOn run goOn).whileLoading⟩
  | broken earlier last failure goOn fatal =>
      rw [viewAfter_of_fatal run earlier fatal, deedsOf_concat]
      refine ⟨earlier, tellsAnswers_of_goOn goOn ?_ (shows_of_goOn run goOn).whileLoading⟩
      intro token answer taken
      obtain ⟨-, rfl⟩ : token = last.token ∧ answer = last.answer := by simpa using taken
      exact fatal.not_survives

/-- The view of a run tells the answers to its own task until the next activation. -/
theorem latest_run_tells {tracking : Tracking σ} {activation : Happening σ} {run : String}
    (activates : activation.activation? = some (some run)) (orderly : tracking.tracker.Orderly)
    (since : List (Happening σ)) (passive : ∀ later ∈ since, later.activation? = none) :
    let deeds := deedsAlong tracking.tracker.pollers.length (tracking.happen activation)
      (untilCall since)
    ∃ exchanges, TellsAnswers run deeds exchanges
      ((tracking.happen activation).after since).tracker.board.view := by
  have onward := happen_onward tracking activation orderly
  have continues := (pursuitOf_continues activates orderly).after (untilCall since) onward.orderly
    (untilCall_noCall since)
  obtain ⟨view, -⟩ := showsAs_untilCall since (tracking.happen activation) onward.orderly passive
  obtain ⟨poller, _, _, _, _, exchanges, course⟩ := continues.stands
  dsimp only
  rw [view]
  exact course.tellsAnswers

/-- A line quotes the run, and the complaint about the last answer or the job of the last success. -/
theorem Shows.quotations {run : String} {answers : List (Except Failure ProofJobsByRun)}
    {loading : Bool} {view : View} (shows : Shows run answers loading view) :
    Report.quotations view = Text.cut 16 run ::
      Report.quotedNews (answers.getLast?.bind complaint?) (lastJobs answers).head? := by
  have given : Text.given? view.error = view.error := by
    have spoken := shows.spoken
    cases said : view.error with
    | none => rfl
    | some error =>
        have solid : error ≠ "" := fun silent => spoken (said.trans (congrArg some silent))
        rw [Text.given?, if_neg (mt String.isEmpty_iff.mp solid)]
  rw [Report.quotations, given, shows.run, shows.error, shows.job]
  rfl

/-- Over HTTP, the error of a poll that failed relays what the reply has for a refusal. -/
theorem complaint_relays {remote : Remote} {reply : Reply} {later : List Reply}
    (next : remote.replies = reply :: later) (exchange : reply.IsExchange) {run : String}
    {token : Option String} (survives : Survives (Remote.fetchProofJobs run token remote).1)
    {error : String} (said : complaint? (Remote.fetchProofJobs run token remote).1 = some error) :
    Relays error reply.quoted := by
  have ends := Remote.fetchProofJobs_typedUnless next exchange run token
  have typed := ends.typed ((survives_fetchProofJobs next exchange run token).mp survives)
  cases answered : (Remote.fetchProofJobs run token remote).1 with
  | ok found =>
      rw [answered] at said
      cases said
  | error failure =>
      rw [answered] at said typed
      cases failure with
      | interrupted => cases said
      | fault cause => cases typed
      | desk refusal =>
          have relays := Remote.fetchProofJobs_relays next answered
          have text := Option.some.inj said
          split at text
          · rename_i silent
            rw [silent] at relays
            rw [← text]
            exact relays.standIn (by decide)
          · rw [← text]
            exact relays

/-- The line breaks and escapes of a status line are those of the texts that it quotes. -/
theorem status_line_breaks_only_in_quotations (interval : Rat) (pacing : Pacing) (backend : σ)
    (happenings : List (Happening σ)) :
    let initial := fresh interval pacing backend
    let view := (initial.after happenings).tracker.board.view
    (∀ colored, '\n' ∈ (Report.statusLine view colored).toList ↔
      ∃ text ∈ Report.quotations view, '\n' ∈ text.toList) ∧
    ('\x1b' ∈ (Report.statusLine view false).toList ↔
      ∃ text ∈ Report.quotations view, '\x1b' ∈ text.toList) ∧
    Report.Painted (Report.statusLine view false) (Report.statusLine view true) ∧
    ((∀ happening ∈ happenings, happening.activation? = none) →
      Report.quotations view = [""]) ∧
    (∀ before activation target since, happenings = before ++ activation :: since →
      activation.activation? = some target → (∀ later ∈ since, later.activation? = none) →
        (target = none → Report.quotations view = [""]) ∧
        ∀ run, target = some run →
          let earlier := initial.after before
          let deeds := deedsAlong earlier.tracker.pollers.length (earlier.happen activation)
            (untilCall since)
          ∃ exchanges, TellsAnswers run deeds exchanges view ∧
            Report.quotations view = Text.cut 16 run ::
              Report.quotedNews ((exchanges.map (·.answer)).getLast?.bind complaint?)
                (lastJobs (exchanges.map (·.answer))).head?) ∧
    ∀ run token remote reply later, remote.replies = reply :: later → reply.IsExchange →
      Survives (Remote.fetchProofJobs run token remote).1 →
        ∀ error, complaint? (Remote.fetchProofJobs run token remote).1 = some error →
          Relays error reply.quoted := by
  intro initial view
  have initially := fresh_orderly interval pacing backend
  have idleQuotes : Report.quotations .idle = [""] := by decide
  refine ⟨Report.newline_mem_statusLine_iff view, Report.escape_mem_statusLine_iff view,
    Report.statusLine_painted view, ?unactivated, ?activated, ?remote⟩
  case unactivated =>
    intro passive
    have dormant : initial.Dormant := by
      intro generation member
      cases member
    have idle : view = .idle := (dormant.after happenings initially passive).1
    rw [idle, idleQuotes]
  case activated =>
    intro before activation target since split activates passive
    have orderly := (after_onward before _ initially).orderly
    have reached : view =
        (((initial.after before).happen activation).after since).tracker.board.view := by
      show (initial.after happenings).tracker.board.view = _
      rw [split, after_append, after_cons]
    constructor
    · rintro rfl
      rw [reached, refused_shows_idle activates orderly since passive, idleQuotes]
    · rintro run rfl
      obtain ⟨exchanges, tells⟩ := latest_run_tells activates orderly since passive
      obtain ⟨loading, shows⟩ := tells.shows
      rw [reached]
      exact ⟨exchanges, tells, shows.quotations⟩
  case remote =>
    intro run token remote reply later next exchange survives error said
    exact complaint_relays next exchange survives said

/-- A poll that fails without a body is told in one line. -/
theorem empty_body_stays_one_line :
    let launched := (fresh 3 {} (replying [.response 500 []])).happen (.start "run-1")
    let view := (launched.after [.turn 0 Remote.backend none]).tracker.board.view
    view.error = some "proof-jobs fetch failed (500): empty response" ∧
      ∀ colored, '\n' ∉ (Report.statusLine view colored).toList := by
  intro launched view
  have failed : view.error = some "proof-jobs fetch failed (500): empty response" := by
    decide +kernel
  have quotes : ¬ ∃ text ∈ Report.quotations view, '\n' ∈ text.toList := by decide +kernel
  obtain ⟨ends, -⟩ := status_line_breaks_only_in_quotations 3 {} (replying [.response 500 []])
    [.start "run-1", .turn 0 Remote.backend none]
  refine ⟨failed, fun colored newline => quotes ?_⟩
  exact (ends colored).mp newline

/-- The body of an answer of status 500, with a line feed and an escape in it. -/
def brokenBody : Bytes := Utf8.encode "a\n\x1b[31mb"

/-- A body in two lines makes the status line of a failed poll two lines, with an escape in them. -/
theorem broken_body_breaks_status_line :
    let launched := (fresh 3 {} (replying [.response 500 brokenBody])).happen (.start "run-1")
    let view := (launched.after [.turn 0 Remote.backend none]).tracker.board.view
    Report.statusLine view false =
        "#1   run=run-1  fetch error: proof-jobs fetch failed (500): a\n\x1b[31mb" ∧
      (∀ colored, '\n' ∈ (Report.statusLine view colored).toList) ∧
      '\x1b' ∈ (Report.statusLine view false).toList := by
  decide +kernel

end OtcDesk.Tracking
