import OtcDesk.Proofs.Tracker.Alone

namespace OtcDesk

namespace Tracker

/-- Cancelling rouses no one when no one is on the agenda. -/
theorem cancel_agenda {tracker : Tracker} (idle : tracker.agenda.wakers = []) :
    tracker.cancel.agenda = tracker.agenda := by
  unfold cancel
  dsimp only
  split
  · exact Agenda.rouse_idle idle _
  · rfl

end Tracker

namespace Tracking

open Tracker

variable {σ : Type} {tracking : Tracking σ} {pursuit : Pursuit} {listener : Option Listener}
  {backend : Backend σ} {store : Option SessionStore} {token : Option String}

/-- Without anyone on the agenda no turn is taken. -/
theorem turn?_idle (backend : Backend σ) (store : Option SessionStore)
    (idle : tracking.tracker.agenda.wakers = []) : tracking.turn? backend store none = none := by
  rw [turn?, Agenda.next?_idle idle]
  rfl

/-- An activation on an agenda without anyone else leaves its task alone, whoever listens. -/
theorem alone_launched {activation : Happening σ} {run : String}
    (activates : activation.activation? = some (some run)) (orderly : tracking.tracker.Orderly)
    (idle : tracking.tracker.agenda.wakers = []) (listener : Option Listener) :
    Alone (tracking.pursuitOf run) listener { tracking.happen activation with listener } []
      .scheduled := by
  have launched := pursuitOf_continues activates orderly
  have onward := happen_onward tracking activation orderly
  have present := launched_present tracking activates orderly.quiet
  refine ⟨launched.of_looksAs ⟨rfl, rfl⟩ rfl, onward.orderly, rfl, ⟨_, present, rfl⟩, ?_⟩
  have called := Agenda.wakers_call tracking.tracker.agenda (.poller tracking.tracker.pollers.length)
  rw [idle] at called
  dsimp only
  rw [launched_agenda tracking activates orderly.quiet, cancel_agenda idle]
  exact List.perm_singleton.mp called

/-- Whoever looks for the task at hand right after an activation is to watch its task. -/
theorem lookForHandle_launched {activation : Happening σ} {run : String}
    (activates : activation.activation? = some (some run)) (orderly : tracking.tracker.Orderly) :
    (tracking.happen activation).lookForHandle = .watching tracking.tracker.pollers.length := by
  have handle : (tracking.happen activation).tracker.handle =
      some tracking.tracker.pollers.length := by
    rw [happen_activation tracking activates orderly.quiet, ← cancel_length]
    rfl
  simp only [lookForHandle, lookAt, handle, launched_present tracking activates orderly.quiet]

/-- What an exchange took in is among the deeds, and nothing else is. -/
theorem mem_deedsOf_takes {exchanges : List Exchange} {answer : Except Failure ProofJobsByRun}
    (member : Deed.takes token answer ∈ deedsOf exchanges) :
    ∃ exchange ∈ exchanges, exchange.answer = answer := by
  obtain ⟨exchange, isOne, deed⟩ := List.mem_flatMap.mp member
  refine ⟨exchange, isOne, ?_⟩
  simp only [List.mem_cons, List.not_mem_nil, or_false, reduceCtorEq, false_or,
    Deed.takes.injEq] at deed
  exact deed.2.symm

/-- A task that is alone and waits for no answer is underway with its exchanges. -/
theorem Alone.underway {exchanges : List Exchange} {phase : PollerPhase}
    (alone : Alone pursuit listener tracking (deedsOf exchanges) phase)
    (survived : ∀ exchange ∈ exchanges, Survives exchange.answer) :
    Underway pursuit.run pursuit.index tracking (deedsOf exchanges) exchanges none := by
  have readable : ∀ fault, .balks fault ∉ deedsOf exchanges := by
    intro fault member
    obtain ⟨exchange, _, deed⟩ := List.mem_flatMap.mp member
    simp at deed
  obtain ⟨same, waiting, underway⟩ := alone.continues.underway readable fun token answer member => by
    obtain ⟨exchange, isOne, rfl⟩ := mem_deedsOf_takes member
    exact survived exchange isOne
  obtain ⟨rfl, rfl⟩ := deedsOf_inj underway.deeds.symm
  exact underway

theorem fetchesOf_exchangesUnder (run : String) (token : Option String)
    (answers : List (Except Failure ProofJobsByRun)) :
    fetchesOf run (deedsOf (exchangesUnder token answers)) =
      List.replicate answers.length (run, token) := by
  induction answers with
  | nil => rfl
  | cons answer rest ih =>
      rw [List.length_cons, List.replicate_succ, ← ih]
      rfl

/-- Once its task has ended, the listener has the next turn and is told how; then nobody goes on. -/
theorem Alone.told {deeds : List Deed} {failure : Option Failure}
    (alone : Alone pursuit (some (.watching pursuit.index)) tracking deeds (.ended failure))
    (backend : Backend σ) (store : Option SessionStore) :
    ∃ told, tracking.turn? backend store none = some (.listener, told) ∧
      told.listener = some (.told (tracking.verdict failure)) ∧
      told.tracker.agenda.wakers = [] ∧ LooksAs tracking.tracker told.tracker ∧
      told.tracker.pollers = tracking.tracker.pollers ∧ told.backend = tracking.backend := by
  obtain ⟨poller, present, stage⟩ := alone.stands
  have sole : tracking.tracker.agenda.wakers = [.listener] := by
    rw [alone.wakers, successors, isWatched, alone.listener]
    simp
  obtain ⟨rest, next, idle⟩ := Agenda.next?_sole sole
  let popped := tracking.onAgenda fun _ => rest
  have turned : tracking.turn? backend store none = some (.listener, popped.wakeListener) := by
    rw [turn?, next]
    rfl
  have looked : popped.lookAt pursuit.index = .told (tracking.verdict failure) := by
    have presentThen : popped.tracker.pollers[pursuit.index]? = some poller := present
    rw [lookAt, presentThen]
    dsimp only
    rw [stage]
    rfl
  have listening : popped.listener = some (.watching pursuit.index) := alone.listener
  have woken : popped.wakeListener =
      { popped with listener := some (.told (tracking.verdict failure)) } := by
    rw [wakeListener, listening]
    dsimp only
    rw [looked]
  rw [woken] at turned
  exact ⟨_, turned, rfl, idle, ⟨rfl, rfl⟩, rfl, rfl⟩

/-- The coming answers to a run are survived, and none but the last of them is terminal. -/
structure Come (backend : Backend σ) (run : String) (token : Option String) (tracking : Tracking σ)
    (answers : List (Except Failure ProofJobsByRun)) : Prop where
  come : answersTo backend run token answers.length tracking.pacing.failures tracking.backend =
    answers
  survived : ∀ answer ∈ answers, Survives answer
  unsettled : ∀ answer ∈ answers.dropLast, isTerminal answer = false

/-- The task of a run that is activated alone makes its exchanges, each in at most two turns. -/
theorem launched_exchanges {activation : Happening σ} {run : String}
    (activates : activation.activation? = some (some run)) (orderly : tracking.tracker.Orderly)
    (idle : tracking.tracker.agenda.wakers = []) (listener : Option Listener)
    (readable : (loadToken store).value = .ok token)
    {answers : List (Except Failure ProofJobsByRun)}
    (come : Come backend run token (tracking.happen activation) answers) :
    ∃ turns reached phase, turns ≤ 2 * answers.length ∧
      ((tracking.happen activation).pacing = {} → turns = answers.length) ∧
      Leads backend store tracking.tracker.pollers.length turns
        { tracking.happen activation with listener } reached ∧
      Alone (tracking.pursuitOf run) listener reached (deedsOf (exchangesUnder token answers))
        phase ∧
      (answers.getLast?.any isTerminal = true → phase = .ended none) ∧
      Shows run answers false reached.tracker.board.view := by
  have launched := alone_launched activates orderly idle listener
  obtain ⟨turns, reached, phase, _, most, atOnce, leads, alone, stage⟩ :=
    launched.run backend readable answers rfl come.come come.survived come.unsettled
  rw [List.nil_append] at alone
  have answered : (exchangesUnder token answers).map (·.answer) = answers := by
    simp [exchangesUnder, Function.comp_def]
  have underway := alone.underway fun exchange member => by
    obtain ⟨answer, isOne, rfl⟩ := List.mem_map.mp member
    exact come.survived answer isOne
  have shows := underway.shows
  rw [answered] at shows
  refine ⟨turns, reached, phase, most, atOnce, leads, alone, fun terminal => ?_, shows⟩
  rw [if_pos terminal] at stage
  exact stage

/-- A run that is activated alone is fetched until an answer is terminal. -/
theorem launched_polls {activation : Happening σ} {run : String}
    (activates : activation.activation? = some (some run)) (orderly : tracking.tracker.Orderly)
    (idle : tracking.tracker.agenda.wakers = []) (listener : Option Listener)
    (readable : (loadToken store).value = .ok token)
    {answers : List (Except Failure ProofJobsByRun)}
    (come : Come backend run token (tracking.happen activation) answers) :
    ∃ turns reached phase, turns ≤ 2 * answers.length ∧
      Leads backend store tracking.tracker.pollers.length turns
        { tracking.happen activation with listener } reached ∧
      Alone (tracking.pursuitOf run) listener reached (deedsOf (exchangesUnder token answers))
        phase ∧
      (answers.getLast?.any isTerminal = true → phase = .ended none) ∧
      Shows run answers false reached.tracker.board.view ∧
      reached.tracker.fetches =
        tracking.tracker.fetches ++ List.replicate answers.length (run, token) := by
  obtain ⟨turns, reached, phase, most, -, leads, alone, stage, shows⟩ :=
    launched_exchanges activates orderly idle listener readable come
  refine ⟨turns, reached, phase, most, leads, alone, stage, shows, ?_⟩
  rw [fetches_pursuitOf alone.continues, fetchesOf_exchangesUnder]

/-- A caller who waits for a run is told what is shown after its first terminal answer. -/
theorem launched_ends {activation : Happening σ} {run : String}
    (activates : activation.activation? = some (some run)) (orderly : tracking.tracker.Orderly)
    (idle : tracking.tracker.agenda.wakers = [])
    (readable : (loadToken store).value = .ok token)
    {answers : List (Except Failure ProofJobsByRun)}
    (come : Come backend run token (tracking.happen activation) answers)
    (terminal : answers.getLast?.any isTerminal = true) {turns : Nat}
    (enough : 2 * answers.length < turns ∨
      (tracking.happen activation).pacing = {} ∧ answers.length < turns) :
    ∃ view reached, (tracking.happen activation).wait backend store turns =
        some (.ok view, reached) ∧
      Shows run answers false view ∧
      (tracking.pursuitOf run).Continues reached (deedsOf (exchangesUnder token answers)) ∧
      reached.turn? backend store none = none := by
  obtain ⟨taken, polled, phase, most, atOnce, leads, alone, stage, shows⟩ :=
    launched_exchanges activates orderly idle (some (.watching tracking.tracker.pollers.length))
      readable come
  rw [stage terminal] at alone
  have fewer : taken < turns := by
    rcases enough with enough | ⟨punctual, enough⟩
    · omega
    · rwa [atOnce punctual]
  obtain ⟨more, rfl⟩ : ∃ more, turns = taken + (more + 1) := ⟨turns - taken - 1, by omega⟩
  obtain ⟨told, turn, listener, nobody, looks, pollers, -⟩ := alone.told backend store
  have leaves : told.dismiss = some (.ok polled.tracker.board.view, { told with listener := none }) := by
    rw [dismiss, listener]
    rfl
  have still : told.tracker.pollers[tracking.tracker.pollers.length]? =
      polled.tracker.pollers[tracking.tracker.pollers.length]? := by rw [pollers]
  refine ⟨polled.tracker.board.view, { told with listener := none }, ?_, shows,
    alone.continues.of_looksAs looks still, turn?_idle backend store nobody⟩
  rw [wait, lookForHandle_launched activates orderly]
  dsimp only
  rw [leads.runUntil (by simp) (more + 1), runUntil, turn]
  exact leaves

/-- Whoever waits long enough for a run is told what is shown after its answers. -/
theorem launched_waits {activation : Happening σ} {run : String}
    (activates : activation.activation? = some (some run)) (orderly : tracking.tracker.Orderly)
    (idle : tracking.tracker.agenda.wakers = [])
    (readable : (loadToken store).value = .ok token)
    {answers : List (Except Failure ProofJobsByRun)}
    (come : Come backend run token (tracking.happen activation) answers)
    (terminal : answers.getLast?.any isTerminal = true) {turns : Nat}
    (enough : 2 * answers.length < turns) :
    ∃ view reached, (tracking.happen activation).wait backend store turns =
        some (.ok view, reached) ∧
      Shows run answers false view ∧
      reached.tracker.fetches =
        tracking.tracker.fetches ++ List.replicate answers.length (run, token) ∧
      reached.turn? backend store none = none := by
  obtain ⟨view, reached, waited, shows, continues, nobody⟩ :=
    launched_ends activates orderly idle readable come terminal (.inl enough)
  refine ⟨view, reached, waited, shows, ?_, nobody⟩
  rw [fetches_pursuitOf continues, fetchesOf_exchangesUnder]

end Tracking

end OtcDesk
