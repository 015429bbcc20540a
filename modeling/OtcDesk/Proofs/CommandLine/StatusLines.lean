import OtcDesk.Proofs.CommandLine.Following
import OtcDesk.Proofs.Tracker.Reporting
import OtcDesk.Proofs.Tracker.SelfTermination

namespace OtcDesk

open Tracking

namespace Tracking

open Tracker CommandLine.Shell

/-- The views after the answers to a run, one after another. -/
def viewsAfter (run : String) (token : Option String)
    (answers : List (Except Failure ProofJobsByRun)) : List View :=
  (List.range answers.length).map fun k =>
    viewAfter run (exchangesUnder token (answers.take (k + 1)))

variable {run : String} {token : Option String} {answers : List (Except Failure ProofJobsByRun)}

theorem viewsAfter_concat (run : String) (token : Option String)
    (earlier : List (Except Failure ProofJobsByRun)) (last : Except Failure ProofJobsByRun) :
    viewsAfter run token (earlier ++ [last]) =
      viewsAfter run token earlier ++ [viewAfter run (exchangesUnder token (earlier ++ [last]))] := by
  have whole : (earlier ++ [last]).take (earlier.length + 1) = earlier ++ [last] :=
    List.take_of_length_le (by simp)
  rw [viewsAfter, List.length_append, List.length_singleton, List.range_succ, List.map_append,
    List.map_singleton, whole, viewsAfter]
  congr 1
  apply List.map_congr_left
  intro k member
  rw [List.take_append_of_le_length (List.mem_range.mp member)]

/-- Nothing before the last of the first answers is terminal when nothing before the last of all is. -/
theorem unsettled_take (unsettled : ∀ answer ∈ answers.dropLast, isTerminal answer = false)
    (count : Nat) : ∀ answer ∈ (answers.take count).dropLast, isTerminal answer = false := by
  intro answer member
  apply unsettled
  rw [List.dropLast_eq_take, List.take_take] at member
  rw [List.dropLast_eq_take]
  apply List.IsPrefix.mem member
  apply List.take_prefix_take_left
  rw [List.length_take]
  omega

/-- What is shown after the answers to a run. -/
theorem viewAfter_answers_shows (run : String) (token : Option String)
    (survived : ∀ answer ∈ answers, Survives answer)
    (unsettled : ∀ answer ∈ answers.dropLast, isTerminal answer = false) :
    Shows run answers false (viewAfter run (exchangesUnder token answers)) := by
  have shows := viewAfter_shows run (exchangesUnder token answers)
    (fun exchange member => by
      obtain ⟨answer, isOne, rfl⟩ := List.mem_map.mp member
      exact survived answer isOne)
    (fun exchange member => by
      rw [exchangesUnder, ← List.map_dropLast] at member
      obtain ⟨answer, isOne, rfl⟩ := List.mem_map.mp member
      exact unsettled answer isOne)
  simpa [exchangesUnder, Function.comp_def] using shows

/-- An exchange shows that the run is loading, and then what follows from the answer. -/
theorem shown_exchange (run : String) (view : View) (token : Option String)
    {answer : Except Failure ProofJobsByRun} {outcome : Outcome}
    (read : Outcome.ofAnswer answer = .ok outcome) :
    (seenOf run view [.asks token, .takes token answer]).filterMap Sighting.view? =
      [view.whileLoading, view.follow answer] := by
  rw [View.follow_ok _ read, ← View.after_whileLoading]
  simp only [seenOf, Deed.seen, Deed.viewAfter, read]
  rfl

/-- A view is worth a line once a poll has ended, and not while the next one is under way. -/
theorem isShown_of_shows {loading : Bool} {view : View} (shows : Shows run answers loading view) :
    isShown view = (!answers.isEmpty && !loading) := by
  have polls := shows.polls
  cases answers with
  | nil => simp [isShown, polls]
  | cons first later =>
      have polled : view.polls ≠ 0 := by
        rw [polls, List.length_cons]
        omega
      simp [isShown, polled, shows.loading]

/-- Of all that a run shows with its answers, only the views after them are worth a line. -/
theorem filter_isShown (run : String) (token : Option String)
    (survived : ∀ answer ∈ answers, Survives answer)
    (unsettled : ∀ answer ∈ answers.dropLast, isTerminal answer = false) :
    ((seenOf run (.starting run) (deedsOf (exchangesUnder token answers))).filterMap
      Sighting.view?).filter isShown = viewsAfter run token answers := by
  induction answers using List.reverseRecOn with
  | nil => rfl
  | append_singleton earlier last ih =>
      have survivedBefore : ∀ answer ∈ earlier, Survives answer := fun answer member =>
        survived answer (List.mem_append_left _ member)
      have unsettledBefore : ∀ answer ∈ earlier, isTerminal answer = false := by
        rwa [List.dropLast_concat] at unsettled
      have unsettledThen : ∀ answer ∈ earlier.dropLast, isTerminal answer = false :=
        fun answer member => unsettledBefore answer (List.dropLast_subset _ member)
      obtain ⟨outcome, read, -⟩ :=
        outcome_of_survived (survived last (List.mem_append_right _ List.mem_cons_self))
      have outcomes : ∀ exchange ∈ exchangesUnder token earlier,
          ∃ outcome, Outcome.ofAnswer exchange.answer = .ok outcome := by
        intro exchange member
        obtain ⟨answer, isOne, rfl⟩ := List.mem_map.mp member
        exact (outcome_of_survived (survivedBefore answer isOne)).imp fun _ => And.left
      -- of the two views of the last exchange, the first is still loading
      have before := viewAfter_answers_shows run token survivedBefore unsettledThen
      have whole := viewAfter_answers_shows run token survived unsettled
      have loading := isShown_of_shows before.whileLoading
      have isLine := isShown_of_shows whole
      have concat : exchangesUnder token (earlier ++ [last]) =
          exchangesUnder token earlier ++ [⟨token, last⟩] := List.map_append
      rw [concat, viewAfter_concat] at isLine
      rw [viewsAfter_concat, ← ih survivedBefore unsettledThen, concat, viewAfter_concat,
        deedsOf_concat, seenOf_append, List.filterMap_append, List.filter_append,
        foldl_deedsOf run outcomes, shown_exchange run _ token read]
      simp [loading, isLine]

/-- A success or an error of the desk. -/
def IsUsual : Except Failure ProofJobsByRun → Prop
  | .ok _ | .error (.desk _) => True
  | .error (.fault _) | .error .interrupted => False

instance : DecidablePred IsUsual := fun answer =>
  match answer with
  | .ok _ | .error (.desk _) => isTrue trivial
  | .error (.fault _) | .error .interrupted => isFalse id

theorem IsUsual.survives {answer : Except Failure ProofJobsByRun} (usual : IsUsual answer) :
    Survives answer := by
  match answer with
  | .ok found => trivial
  | .error (.desk error) => trivial

/-- The polls of a run are answered up to a first terminal job that can be reported. -/
structure Completes {σ : Type} (backend : Backend σ) (run : String) (token : Option String)
    (state : σ) (answers : List (Except Failure ProofJobsByRun)) : Prop where
  come : answersTo backend run token answers.length [] state = answers
  usual : ∀ answer ∈ answers, IsUsual answer
  unsettled : ∀ answer ∈ answers.dropLast, isTerminal answer = false
  final : ∃ (found : ProofJobsByRun) (job : ProofJob), answers.getLast? = some (.ok found) ∧
    found.jobs.head? = some job ∧ job.isTerminal = true ∧
    ∀ step ∈ job.transitions, ∃ text, Instant.render step.transitionedAt = .ok text

variable {σ : Type} {backend : Backend σ} {state : σ}

theorem Completes.survived (completes : Completes backend run token state answers) :
    ∀ answer ∈ answers, Survives answer := fun answer member =>
  (completes.usual answer member).survives

theorem Completes.terminal (completes : Completes backend run token state answers) :
    answers.getLast?.any isTerminal = true := by
  obtain ⟨found, job, last, first, terminal, _⟩ := completes.final
  rw [job_isTerminal] at terminal
  simpa [last, isTerminal, first] using terminal

/-- What is shown in the end can be reported. -/
theorem Completes.reported (completes : Completes backend run token state answers) {view : View}
    (shows : Shows run answers false view) : ∃ text, Report.tracker view = .ok text := by
  obtain ⟨found, job, last, first, -, rendered⟩ := completes.final
  obtain ⟨earlier, rfl⟩ := List.getLast?_eq_some_iff.mp last
  have jobs : lastJobs (earlier ++ [.ok found]) = found.jobs := lastJobs_concat earlier _
  have timeline : view.timeline = orderTimeline job.transitions := by
    rw [shows.timeline, jobs, first]
    rfl
  have shown : view.started = true ∧ view.job.isSome = true := by
    rw [shows.started, shows.job, jobs, first]
    exact ⟨rfl, rfl⟩
  have names := Report.tracker_names view
  rw [if_pos shown, timeline] at names
  apply names.isOk.mpr
  intro step member
  rw [← Instant.render_eq_ok_iff]
  exact rendered step (List.mem_mergeSort.mp member)

/-- There are no more answers than up to one that is terminal or unusual. -/
theorem Completes.length_le (completes : Completes backend run token state answers) {ahead : Nat}
    (stops : let answer := (backend.fetchProofJobs run token
        (fetchedFrom backend run token ahead state)).1
      IsUsual answer → isTerminal answer = true) : answers.length ≤ ahead + 1 := by
  by_contra more
  have within : ahead < answers.length := by omega
  have isThat := getElem?_answersTo backend run token answers.length ahead within state
  rw [completes.come] at isThat
  have early : ahead < answers.dropLast.length := by
    rw [List.length_dropLast]
    omega
  have member : (backend.fetchProofJobs run token (fetchedFrom backend run token ahead state)).1 ∈
      answers.dropLast := by
    apply List.mem_of_getElem? (i := ahead)
    rw [List.getElem?_dropLast, if_pos (by omega), isThat]
  have goesOn := completes.unsettled _ member
  rw [stops (completes.usual _ (List.dropLast_subset _ member))] at goesOn
  cases goesOn

section Watching

variable {origin tracking : Tracking σ} {store : Option SessionStore} {good : View → Bool}

theorem viewsAfter_take (run : String) (token : Option String)
    (answers : List (Except Failure ProofJobsByRun)) (count : Nat) :
    viewsAfter run token (answers.take count) = (viewsAfter run token answers).take count := by
  rw [viewsAfter, viewsAfter, ← List.map_take, List.take_range, List.length_take]
  apply List.map_congr_left
  intro k member
  have within : k + 1 ≤ count := by
    have bounded := List.mem_range.mp member
    omega
  rw [List.take_take, Nat.min_eq_left within]

/-- Of all that was shown since a run, the views after its answers are worth a line. -/
theorem shown_of_continues {reached : Tracking σ}
    (continues : (origin.pursuitOf run).Continues reached (deedsOf (exchangesUnder token answers)))
    (unseen : origin.tracker.updates = []) (survived : ∀ answer ∈ answers, Survives answer)
    (unsettled : ∀ answer ∈ answers.dropLast, isTerminal answer = false) :
    reached.tracker.updates.filter isShown = viewsAfter run token answers := by
  have unworthy : isShown (.starting run) = false := rfl
  rw [updates_pursuitOf continues, unseen, List.nil_append,
    List.filter_cons_of_neg (by simp [unworthy])]
  exact filter_isShown run token survived unsettled

/-- All updates pass so far if the views after the answers are good. -/
theorem accepted_of_continues {reached : Tracking σ}
    (continues : (origin.pursuitOf run).Continues reached (deedsOf (exchangesUnder token answers)))
    (unseen : origin.tracker.updates = []) (survived : ∀ answer ∈ answers, Survives answer)
    (unsettled : ∀ answer ∈ answers.dropLast, isTerminal answer = false)
    (fine : ∀ view ∈ viewsAfter run token answers, good view = true) :
    reached.tracker.updates.all (passes good) = true := by
  have shown := shown_of_continues continues unseen survived unsettled
  rw [← shown] at fine
  have accepted := List.all_eq_true.mpr fine
  rwa [List.all_filter] at accepted

/-- All updates pass before a further answer if the views up to the last one are good. -/
theorem accepted_so_far {earlier later : List (Except Failure ProofJobsByRun)}
    {answer : Except Failure ProofJobsByRun}
    (continues : (origin.pursuitOf run).Continues tracking (deedsOf (exchangesUnder token earlier)))
    (unseen : origin.tracker.updates = [])
    (survived : ∀ one ∈ earlier ++ answer :: later, Survives one)
    (unsettled : ∀ one ∈ (earlier ++ answer :: later).dropLast, isTerminal one = false)
    (fine : ∀ view ∈ (viewsAfter run token (earlier ++ answer :: later)).dropLast,
      good view = true) :
    tracking.tracker.updates.all (passes good) = true := by
  have before : earlier = (earlier ++ answer :: later).take earlier.length := by simp
  have few : earlier.length ≤ (viewsAfter run token (earlier ++ answer :: later)).length - 1 := by
    simp [viewsAfter]
  apply accepted_of_continues continues unseen
    (fun one member => survived one (List.mem_append_left _ member))
  · rw [before]
    exact unsettled_take unsettled _
  · intro view member
    apply fine
    rw [before, viewsAfter_take] at member
    rw [List.dropLast_eq_take]
    exact (List.take_prefix_take_left few).mem member

/-- A task that nothing delays is watched as it makes one exchange. -/
theorem Alone.watchFor_exchange {earlier : List (Except Failure ProofJobsByRun)}
    {phase : PollerPhase} {accepts : View → Bool}
    (alone : Alone (origin.pursuitOf run) (some (.watching origin.tracker.pollers.length)) tracking
      (deedsOf (exchangesUnder token earlier)) phase)
    (free : phase.isFree = true) (punctual : tracking.pacing = {})
    (readable : (loadToken store).value = .ok token)
    (accepted : tracking.tracker.updates.all accepts = true)
    {answer : Except Failure ProofJobsByRun} {state : σ}
    (brought : backend.fetchProofJobs run token tracking.backend = (answer, state))
    (survives : Survives answer) :
    ∃ next, (∀ more, tracking.watchFor backend store accepts (more + 1) =
          next.watchFor backend store accepts more) ∧
      next.pacing = {} ∧ next.backend = state ∧
      Alone (origin.pursuitOf run) (some (.watching origin.tracker.pollers.length)) next
        (deedsOf (exchangesUnder token (earlier ++ [answer])))
        (if isTerminal answer then .ended none else .resting) := by
  have hears : heard backend run token (tracking.pacing.failures.headD none) tracking.backend =
      (answer, state) := by
    rw [punctual]
    exact brought
  obtain ⟨turns, next, _, _, atOnce, leads, stillAlone, pacing, sameBackend⟩ :=
    alone.exchange free backend readable hears survives
  obtain rfl := atOnce punctual
  rw [punctual] at pacing
  rw [exchangesUnder, List.map_append, List.map_singleton, deedsOf_concat]
  exact ⟨next, watchFor_poller (isTold_of_watching alone.listener) accepted leads.turn?_eq, pacing,
    sameBackend, stillAlone⟩

/-- A task that nothing delays is watched from answer to answer, as long as the views are good. -/
theorem Alone.watchFor_answers (unseen : origin.tracker.updates = [])
    (readable : (loadToken store).value = .ok token) (more : Nat)
    (later : List (Except Failure ProofJobsByRun)) :
    ∀ {tracking : Tracking σ} {earlier : List (Except Failure ProofJobsByRun)}
      {phase : PollerPhase},
      Alone (origin.pursuitOf run) (some (.watching origin.tracker.pollers.length)) tracking
        (deedsOf (exchangesUnder token earlier)) phase →
      (later ≠ [] → phase.isFree = true) →
      (earlier.getLast?.any isTerminal = true → phase = .ended none) →
      tracking.pacing = {} →
      answersTo backend run token later.length [] tracking.backend = later →
      (∀ answer ∈ earlier ++ later, Survives answer) →
      (∀ answer ∈ (earlier ++ later).dropLast, isTerminal answer = false) →
      (∀ view ∈ (viewsAfter run token (earlier ++ later)).dropLast, good view = true) →
      ∃ next stage, tracking.watchFor backend store (passes good) (later.length + more) =
            next.watchFor backend store (passes good) more ∧
        Alone (origin.pursuitOf run) (some (.watching origin.tracker.pollers.length)) next
          (deedsOf (exchangesUnder token (earlier ++ later))) stage ∧
        ((earlier ++ later).getLast?.any isTerminal = true → stage = .ended none) := by
  induction later with
  | nil =>
      intro tracking earlier phase alone _ ended _ _ _ _ _
      rw [List.append_nil, List.length_nil, Nat.zero_add]
      exact ⟨tracking, phase, rfl, alone, ended⟩
  | cons answer rest ih =>
      intro tracking earlier phase alone free _ punctual come survived unsettled fine
      have accepted := accepted_so_far alone.continues unseen survived unsettled fine
      obtain ⟨state, brought, areRest⟩ := answersTo_cons come
      obtain ⟨next, goesOn, stillPunctual, rfl, stillAlone⟩ :=
        alone.watchFor_exchange (free (List.cons_ne_nil answer rest)) punctual readable accepted
          brought (survived answer (List.mem_append_right _ List.mem_cons_self))
      have stillFree : rest ≠ [] →
          (if isTerminal answer then PollerPhase.ended none else .resting).isFree = true := by
        intro others
        rw [unsettled answer]
        · rfl
        · rw [List.dropLast_append_of_ne_nil (List.cons_ne_nil answer rest),
            List.dropLast_cons_of_ne_nil others]
          exact List.mem_append_right _ List.mem_cons_self
      have ended : (earlier ++ [answer]).getLast?.any isTerminal = true →
          (if isTerminal answer then PollerPhase.ended none else .resting) = .ended none := by
        intro terminal
        rw [List.getLast?_concat] at terminal
        exact if_pos terminal
      rw [List.append_cons] at survived unsettled fine ⊢
      obtain ⟨last, stage, runs, lastAlone, ends⟩ :=
        ih stillAlone stillFree ended stillPunctual areRest survived unsettled fine
      refine ⟨last, stage, ?_, lastAlone, ends⟩
      rw [List.length_cons, Nat.succ_add]
      exact (goesOn _).trans runs

theorem answersTo_take (backend : Backend σ) (run : String) (token : Option String)
    {count total : Nat} (within : count ≤ total) : ∀ state : σ,
    answersTo backend run token count [] state =
      (answersTo backend run token total [] state).take count := by
  induction count generalizing total with
  | zero => exact fun _ => rfl
  | succ count ih =>
      intro state
      obtain ⟨more, rfl⟩ : ∃ more, total = more + 1 := ⟨total - 1, by omega⟩
      exact congrArg _ (ih (Nat.le_of_succ_le_succ within) _)

variable {activation : Happening σ}

/-- A run is watched through its answers as long as the views before the last are good. -/
theorem Completes.watchFor_take (completes : Completes backend run token state answers)
    (activates : activation.activation? = some (some run)) (orderly : origin.tracker.Orderly)
    (idle : origin.tracker.agenda.wakers = []) (unseen : origin.tracker.updates = [])
    (punctual : origin.pacing = {}) (stands : origin.backend = state)
    (readable : (loadToken store).value = .ok token) {count : Nat}
    (within : count ≤ answers.length)
    (fine : ∀ view ∈ (viewsAfter run token answers).take (count - 1), good view = true)
    (more : Nat) :
    ∃ next stage, (origin.happen activation).watch backend store (passes good) (count + more) =
        next.watchFor backend store (passes good) more ∧
      Alone (origin.pursuitOf run) (some (.watching origin.tracker.pollers.length)) next
        (deedsOf (exchangesUnder token (answers.take count))) stage ∧
      ((answers.take count).getLast?.any isTerminal = true → stage = .ended none) := by
  obtain ⟨pacing, same⟩ := origin.activation_keeps activates
  have launched : Alone (origin.pursuitOf run) _ _ (deedsOf (exchangesUnder token [])) .scheduled :=
    alone_launched activates orderly idle (some (.watching origin.tracker.pollers.length))
  have length : (answers.take count).length = count := List.length_take_of_le within
  have come : answersTo backend run token (answers.take count).length [] origin.backend =
      answers.take count := by
    rw [length, answersTo_take backend run token within, stands, completes.come]
  rw [← same] at come
  have views : ((viewsAfter run token ([] ++ answers.take count)).dropLast) =
      (viewsAfter run token answers).take (count - 1) := by
    rw [List.nil_append, viewsAfter_take, List.dropLast_eq_take, List.take_take, List.length_take]
    congr 1
    simp only [viewsAfter, List.length_map, List.length_range]
    omega
  obtain ⟨next, stage, runs, alone, ends⟩ := launched.watchFor_answers unseen readable more
    (answers.take count) (fun _ => rfl) (fun terminal => by cases terminal)
    (pacing.trans punctual) come
    (fun answer member => completes.survived answer (List.mem_of_mem_take member))
    (unsettled_take completes.unsettled count) (by rw [views]; exact fine)
  rw [length] at runs
  exact ⟨next, stage, (watch_launched activates orderly _).trans runs, alone, ends⟩

/-- If all views are good, whoever watches a run that completes is told the last of them. -/
theorem Completes.watched (completes : Completes backend run token state answers)
    (activates : activation.activation? = some (some run)) (orderly : origin.tracker.Orderly)
    (idle : origin.tracker.agenda.wakers = []) (unseen : origin.tracker.seen = [])
    (punctual : origin.pacing = {}) (stands : origin.backend = state)
    (readable : (loadToken store).value = .ok token)
    (fine : ∀ view ∈ viewsAfter run token answers, good view = true) {polls : Nat}
    (enough : answers.length ≤ polls) {reached : Tracking σ}
    (isThat : (origin.happen activation).watch backend store (passes good) polls = reached) :
    ∃ view, reached.listener = some (.told (.ok view)) ∧
      (viewsAfter run token answers).getLast? = some view ∧
      reached.tracker.fetches = List.replicate answers.length (run, token) ∧
      reached.tracker.updates.filter isShown = viewsAfter run token answers := by
  have noFetches : origin.tracker.fetches = [] := by rw [fetches_eq, unseen]; rfl
  have noUpdates : origin.tracker.updates = [] := by rw [updates_eq, unseen]; rfl
  obtain ⟨more, rfl⟩ : ∃ more, polls = answers.length + more := ⟨polls - answers.length, by omega⟩
  obtain ⟨next, stage, runs, alone, ends⟩ := completes.watchFor_take activates orderly idle noUpdates
    punctual stands readable (Nat.le_refl _) (fun view member => fine view (List.mem_of_mem_take member))
    more
  rw [List.take_length] at alone ends
  obtain rfl := ends completes.terminal
  have accepted :=
    accepted_of_continues alone.continues noUpdates completes.survived completes.unsettled fine
  obtain ⟨told, watched, heard, looks, pollers, -⟩ := alone.watchFor_ended accepted more
  obtain rfl : told = reached := (runs.trans watched).symm.trans isThat
  have same : told.tracker.pollers[origin.tracker.pollers.length]? =
      next.tracker.pollers[origin.tracker.pollers.length]? := by rw [pollers]
  have continues := alone.continues.of_looksAs looks same
  have underway := alone.underway fun exchange member => by
    obtain ⟨answer, isOne, rfl⟩ := List.mem_map.mp member
    exact completes.survived answer isOne
  have answered : (exchangesUnder token answers).map (·.answer) = answers := by
    simp [exchangesUnder, Function.comp_def]
  have shows := underway.shows
  rw [answered] at shows
  refine ⟨next.tracker.board.view, heard, ?last, ?fetches, ?updates⟩
  case last =>
    obtain ⟨found, job, last, -⟩ := completes.final
    obtain ⟨earlier, rfl⟩ := List.getLast?_eq_some_iff.mp last
    have whole := viewAfter_answers_shows run token completes.survived completes.unsettled
    rw [viewsAfter_concat, List.getLast?_concat, shows.unique whole]
  case fetches =>
    rw [fetches_pursuitOf continues, fetchesOf_exchangesUnder, noFetches, List.nil_append]
  case updates =>
    exact shown_of_continues continues noUpdates completes.survived completes.unsettled

end Watching

end Tracking

namespace CommandLine.Shell

variable {shell : Shell} {config : Config} {run : String} {token : Option String}
  {answers : List (Except Failure ProofJobsByRun)} {gateway : Gateway.State}

end CommandLine.Shell

end OtcDesk
