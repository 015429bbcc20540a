import OtcDesk.Proofs.Backend.Practice
import OtcDesk.Proofs.Tracker.Budget
import OtcDesk.Proofs.Tracker.Waiting

namespace OtcDesk.Tracking

open Tracker

variable {σ : Type} {tracking : Tracking σ}

/-- A tracking that comes about from a fresh one. -/
def Reachable (tracking : Tracking σ) : Prop :=
  ∃ (interval : Rat) (pacing : Pacing) (backend : σ) (happenings : List (Happening σ)),
    tracking = (fresh interval pacing backend).after happenings

theorem Reachable.orderly (reachable : tracking.Reachable) : tracking.tracker.Orderly := by
  obtain ⟨interval, pacing, backend, happenings, rfl⟩ := reachable
  exact reached_orderly interval pacing backend happenings

/-- An activation puts its task on the agenda. -/
theorem launched_awaited {activation : Happening σ} {run : String}
    (activates : activation.activation? = some (some run)) (orderly : tracking.tracker.Orderly) :
    (tracking.happen activation).EndedOrAwaited tracking.tracker.pollers.length := by
  refine ⟨_, launched_present tracking activates orderly.quiet, .inr ?_⟩
  rw [launched_agenda tracking activates orderly.quiet]
  exact (Agenda.wakers_call _ _).mem_iff.mpr List.mem_cons_self

/-- A task that is at work and has not ended or is on the agenda is on the agenda. -/
theorem IsAtWork.awaited {index : Nat} (works : tracking.IsAtWork index)
    (stays : tracking.EndedOrAwaited index) : .poller index ∈ tracking.tracker.agenda.wakers := by
  obtain ⟨poller, present, unended⟩ := works
  obtain ⟨same, samePresent, ended | awaited⟩ := stays
  · obtain rfl := Option.some.inj (present.symm.trans samePresent)
    rw [unended] at ended
    cases ended
  · exact awaited

/-- A task is underway as long as the store can be read and every answer is survived. -/
theorem underway_unless_harmed {activation : Happening σ} {run : String}
    (activates : activation.activation? = some (some run)) (orderly : tracking.tracker.Orderly)
    {since : List (Happening σ)} (noCalls : ∀ happening ∈ since, happening.isCall = false) :
    let index := tracking.tracker.pollers.length
    let launched := tracking.happen activation
    let deeds := deedsAlong index launched since
    let reached := launched.after since
    (∀ fault, .balks fault ∉ deeds) →
      (∀ token answer, .takes token answer ∈ deeds → Survives answer) →
      ∃ exchanges waiting, Underway run index reached deeds exchanges waiting ∧
        ∀ turns, Scheduled launched turns since →
          turns ≤ deeds.length + launched.tracker.budget ∧
          (isSettled exchanges = false → .poller index ∈ reached.tracker.agenda.wakers) := by
  intro index launched deeds reached readable survived
  have begins := pursuitOf_continues activates orderly
  have onward := happen_onward tracking activation orderly
  have continues := begins.after since onward.orderly noCalls
  obtain ⟨exchanges, waiting, underway⟩ := continues.underway readable survived
  refine ⟨exchanges, waiting, underway, ?_⟩
  intro turns scheduled
  have paid := scheduled.turns_le begins onward.orderly
  have stays := scheduled.endedOrAwaited begins onward.orderly (launched_awaited activates orderly)
  refine ⟨Nat.le_trans (Nat.le_add_right _ _) paid, ?_⟩
  intro unsettled
  exact (underway.proceeds unsettled).1.awaited stays

/-- The task of an activation is underway through all that happens without a call. -/
theorem underway_since {activation : Happening σ} {run : String}
    (activates : activation.activation? = some (some run)) (orderly : tracking.tracker.Orderly)
    {since : List (Happening σ)}
    (passive : ∀ happening ∈ since, happening.isCall = false ∧ happening.StoreReads) :
    let index := tracking.tracker.pollers.length
    let launched := tracking.happen activation
    let deeds := deedsAlong index launched since
    let reached := launched.after since
    (∀ token answer, .takes token answer ∈ deeds → Survives answer) →
      reached.tracker.fetches = tracking.tracker.fetches ++ fetchesOf run deeds ∧
      ∃ exchanges waiting, Underway run index reached deeds exchanges waiting ∧
        ∀ turns, Scheduled launched turns since →
          turns ≤ deeds.length + launched.tracker.budget ∧
          (isSettled exchanges = false → .poller index ∈ reached.tracker.agenda.wakers) := by
  intro index launched deeds reached survived
  have noCalls : ∀ happening ∈ since, happening.isCall = false := fun happening member =>
    (passive happening member).1
  have onward := happen_onward tracking activation orderly
  have continues := (pursuitOf_continues activates orderly).after since onward.orderly noCalls
  have readable : ∀ fault, .balks fault ∉ deeds := fun fault =>
    deedsAlong_readable _ since fault _ fun happening member => (passive happening member).2
  exact ⟨fetches_pursuitOf continues, underway_unless_harmed activates orderly noCalls readable survived⟩

/-- The coming answers of the practice backend, when no fetch fails on its way. -/
theorem answersTo_practice {clock : Clock} {now : Int} (reads : clock.seconds = .ok now)
    (run : String) (token : Option String) (count : Nat) :
    ∀ (failures : List (Option Failure)) (state : Practice.State),
      (∀ failure ∈ failures, failure = none) →
      answersTo (Practice.backend clock) run token count failures state =
        (List.range count).map (Practice.answerAt run now state.1) := by
  induction count with
  | zero => exact fun _ _ _ => rfl
  | succ count ih =>
      intro failures state smooth
      have unfailing : failures.headD none = none := by
        cases failures with
        | nil => rfl
        | cons failure later => exact smooth failure List.mem_cons_self
      have rest := ih failures.tail (Practice.fetchProofJobs clock run state).2
        fun failure member => smooth failure (List.mem_of_mem_tail member)
      have brought : heard (Practice.backend clock) run token none state =
          Practice.fetchProofJobs clock run state := rfl
      rw [answersTo, unfailing, brought, List.range_succ_eq_map, List.map_cons, List.map_map]
      dsimp only
      rw [rest, Practice.fetchProofJobs_answer reads]
      congr 1
      apply List.map_congr_left
      intro fetch _
      exact Practice.fetchProofJobs_later reads run state fetch

/-- The job of the practice backend is terminal from its last step on. -/
theorem isTerminal_showing (run : String) (now : Int) (step : Nat) (within : step ≤ 2) :
    isTerminal (.ok (Practice.showing run (Practice.jobAt run now step))) = decide (step = 2) := by
  match step with
  | 0 => rfl
  | 1 => rfl
  | 2 => rfl

/-- The practice backend has one answer for each step left, and only the last is terminal. -/
theorem practice_come {clock : Clock} {now : Int} (reads : clock.seconds = .ok now) (run : String)
    (token : Option String) {practising : Tracking Practice.State}
    (smooth : ∀ failure ∈ practising.pacing.failures, failure = none)
    (walks : practising.backend.1.proofSnapshots = []) :
    ∃ earlier, earlier.length = 2 - practising.backend.1.polls ∧
      Come (Practice.backend clock) run token practising
        (earlier ++ [.ok (Practice.showing run (Practice.jobAt run now 2))]) := by
  let answer := Practice.answerAt run now practising.backend.1
  have shows : ∀ fetch, answer fetch = .ok (Practice.showing run
      (Practice.jobAt run now (min (practising.backend.1.polls + fetch) 2))) := by
    intro fetch
    simp only [answer, Practice.answerAt, walks]
  have last : answer (2 - practising.backend.1.polls) =
      .ok (Practice.showing run (Practice.jobAt run now 2)) := by
    rw [shows, show min (practising.backend.1.polls + (2 - practising.backend.1.polls)) 2 = 2 by omega]
  rw [← last]
  refine ⟨(List.range (2 - practising.backend.1.polls)).map answer, by simp, ?_, ?_, ?_⟩
  · rw [answersTo_practice reads run token _ _ _ smooth, List.length_append, List.length_map,
      List.length_range, List.length_singleton, List.range_succ, List.map_append]
    rfl
  · intro taken member
    rw [← List.map_singleton, ← List.map_append] at member
    obtain ⟨fetch, _, rfl⟩ := List.mem_map.mp member
    rw [shows]
    trivial
  · intro taken member
    rw [List.dropLast_concat] at member
    obtain ⟨fetch, early, rfl⟩ := List.mem_map.mp member
    have bound := List.mem_range.mp early
    rw [shows, isTerminal_showing run now _ (Nat.min_le_right _ _)]
    exact decide_eq_false (by omega)

/-- Over the practice backend, whoever waits for a run is told that it was published. -/
theorem practice_waits {clock : Clock} {now : Int} (reads : clock.seconds = .ok now)
    {store : Option SessionStore} {token : Option String}
    (readable : (loadToken store).value = .ok token) {practising : Tracking Practice.State}
    {activation : Happening Practice.State} {run : String}
    (activates : activation.activation? = some (some run))
    (orderly : practising.tracker.Orderly) (idle : practising.tracker.agenda.wakers = [])
    (smooth : ∀ failure ∈ practising.pacing.failures, failure = none)
    (walks : practising.backend.1.proofSnapshots = []) {turns : Nat}
    (enough : 2 * (2 - practising.backend.1.polls + 1) < turns) :
    let count := 2 - practising.backend.1.polls + 1
    ∃ view reached, (practising.happen activation).wait (Practice.backend clock) store turns =
        some (.ok view, reached) ∧
      view.polls = count ∧ view.finished = true ∧
      view.job = some (Practice.jobAt run now 2) ∧
      reached.tracker.fetches =
        practising.tracker.fetches ++ List.replicate count (run, token) ∧
      reached.turn? (Practice.backend clock) store none = none := by
  have kept := activation_keeps practising activates
  rw [← kept.1] at smooth
  rw [← kept.2] at walks
  obtain ⟨earlier, length, come⟩ := practice_come reads run token smooth walks
  rw [kept.2] at length
  let last : Except Failure ProofJobsByRun :=
    .ok (Practice.showing run (Practice.jobAt run now 2))
  have terminal : (earlier ++ [last]).getLast?.any isTerminal = true := by
    rw [List.getLast?_concat]
    rfl
  have counted : (earlier ++ [last]).length = 2 - practising.backend.1.polls + 1 := by
    rw [List.length_append, length]
    rfl
  rw [← counted] at enough ⊢
  obtain ⟨view, reached, waited, shows, fetches, nobody⟩ :=
    launched_waits activates orderly idle readable come terminal enough
  refine ⟨view, reached, waited, shows.polls, shows.finished.trans terminal, ?_, fetches, nobody⟩
  rw [shows.job, lastJobs_concat]
  rfl

/-- A task fetches and shows its run until the first terminal answer, and then stops. -/
theorem tracked_until_terminal {activation : Happening σ} {run : String}
    (reachable : tracking.Reachable) (activates : activation.activation? = some (some run)) :
    let index := tracking.tracker.pollers.length
    let launched := tracking.happen activation
    (∀ since : List (Happening σ),
      (∀ happening ∈ since, happening.isCall = false ∧ happening.StoreReads) →
      let deeds := deedsAlong index launched since
      let reached := launched.after since
      (∀ token answer, .takes token answer ∈ deeds → Survives answer) →
      reached.tracker.fetches = tracking.tracker.fetches ++ fetchesOf run deeds ∧
      ∃ exchanges waiting, Underway run index reached deeds exchanges waiting ∧
        ∀ turns, Scheduled launched turns since →
          turns ≤ deeds.length + launched.tracker.budget ∧
          (isSettled exchanges = false → .poller index ∈ reached.tracker.agenda.wakers)) ∧
    (∀ (backend : Backend σ) (store : Option SessionStore) (token : Option String)
        (answers : List (Except Failure ProofJobsByRun)),
      tracking.tracker.agenda.wakers = [] → (loadToken store).value = .ok token →
      Come backend run token launched answers →
      let fetches := tracking.tracker.fetches ++ List.replicate answers.length (run, token)
      (∃ turns reached, turns ≤ 2 * answers.length ∧
        Leads backend store index turns launched reached ∧
        Shows run answers false reached.tracker.board.view ∧ reached.tracker.fetches = fetches) ∧
      (answers.getLast?.any isTerminal = true → ∀ turns, 2 * answers.length < turns →
        ∃ view told, launched.wait backend store turns = some (.ok view, told) ∧
          Shows run answers false view ∧ told.tracker.fetches = fetches ∧
          told.turn? backend store none = none)) ∧
    ∀ (clock : Clock) (now : Int) (store : Option SessionStore) (token : Option String)
        (practising : Tracking Practice.State) (begins : Happening Practice.State),
      practising.Reachable → begins.activation? = some (some run) →
      practising.tracker.agenda.wakers = [] → (loadToken store).value = .ok token →
      clock.seconds = .ok now → (∀ failure ∈ practising.pacing.failures, failure = none) →
      (∀ count, answersTo (Practice.backend clock) run token count practising.pacing.failures
          practising.backend =
        (List.range count).map (Practice.answerAt run now practising.backend.1)) ∧
      (practising.backend.1.proofSnapshots = [] →
        let count := 2 - practising.backend.1.polls + 1
        ∀ turns, 2 * count < turns → ∃ view told,
          (practising.happen begins).wait (Practice.backend clock) store turns =
            some (.ok view, told) ∧
          view.polls = count ∧ view.finished = true ∧
          view.job = some (Practice.jobAt run now 2) ∧
          told.tracker.fetches =
            practising.tracker.fetches ++ List.replicate count (run, token) ∧
          told.turn? (Practice.backend clock) store none = none) := by
  have orderly := reachable.orderly
  refine ⟨?underway, ?alone, ?practice⟩
  case underway =>
    intro since passive
    exact underway_since activates orderly passive
  case alone =>
    intro backend store token answers idle readable come
    refine ⟨?_, fun terminal turns enough => ?_⟩
    · obtain ⟨turns, reached, phase, most, leads, _, _, shows, fetches⟩ :=
        launched_polls activates orderly idle (tracking.happen activation).listener readable come
      exact ⟨turns, reached, most, leads, shows, fetches⟩
    · exact launched_waits activates orderly idle readable come terminal enough
  case practice =>
    intro clock now store token practising begins practised activates idle readable reads smooth
    refine ⟨fun count => answersTo_practice reads run token count _ _ smooth, ?_⟩
    intro walks count turns enough
    exact practice_waits reads readable activates practised.orderly idle smooth walks enough

/-- A practice backend that was not asked anything yet. -/
def untouched : Practice.State :=
  ({}, { uuids := fun _ => ⟨0⟩, signingSeeds := fun _ => [], sealingNonces := fun _ => [] })

/-- Whoever waits for the first run of a practice backend sees it published after three fetches. -/
theorem first_run_published :
    let launched := (fresh 3 {} untouched).happen (.start "run-1")
    let backend := Practice.backend (.whole 100)
    let since := List.replicate 3 (Happening.turn 0 backend none)
    (∃ exchanges waiting,
      Underway "run-1" 0 (launched.after since) (deedsAlong 0 launched since) exchanges waiting) ∧
    ∃ view told, launched.wait backend none 7 = some (.ok view, told) ∧
      view.polls = 3 ∧ view.finished = true ∧
      view.job = some (Practice.jobAt "run-1" 100 2) ∧
      told.tracker.fetches = List.replicate 3 ("run-1", none) := by
  intro launched backend since
  have reachable : (fresh 3 {} untouched).Reachable := ⟨3, {}, untouched, [], rfl⟩
  have activates : (Happening.start "run-1" : Happening Practice.State).activation? =
      some (some "run-1") := rfl
  obtain ⟨underway, -, practice⟩ := tracked_until_terminal reachable activates
  constructor
  · have passive : ∀ happening ∈ since, happening.isCall = false ∧ happening.StoreReads := by
      intro happening member
      obtain ⟨_, rfl⟩ := List.mem_replicate.mp member
      exact ⟨rfl, ⟨none, rfl⟩⟩
    have unharmed : Unharmed (deedsAlong 0 launched since) := by decide +kernel
    obtain ⟨-, exchanges, waiting, goes, -⟩ := underway since passive unharmed.2
    exact ⟨exchanges, waiting, goes⟩
  · have smooth : ∀ failure ∈ (fresh 3 {} untouched).pacing.failures, failure = none := by
      intro failure member
      cases member
    obtain ⟨-, waits⟩ := practice (.whole 100) 100 none none (fresh 3 {} untouched)
      (.start "run-1") reachable activates rfl rfl rfl smooth
    obtain ⟨view, told, waited, polls, finished, job, fetches, -⟩ := waits rfl 7 (by decide)
    exact ⟨view, told, waited, polls, finished, job, fetches⟩

end OtcDesk.Tracking
