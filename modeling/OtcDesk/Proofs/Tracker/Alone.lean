import OtcDesk.Proofs.Tracker.Agenda
import OtcDesk.Proofs.Tracker.Progress

namespace OtcDesk.Tracking

open Tracker

variable {σ : Type}

/-- The answers to the coming fetches of a run under a token, as long as nobody else asks. -/
def answersTo (backend : Backend σ) (run : String) (token : Option String) :
    Nat → List (Option Failure) → σ → List (Except Failure ProofJobsByRun)
  | 0, _, _ => []
  | count + 1, failures, state =>
    let (answer, state) := heard backend run token (failures.headD none) state
    answer :: answersTo backend run token count failures.tail state

/-- The first answer, and those that come once the backend has given it. -/
theorem answersTo_cons {backend : Backend σ} {run : String} {token : Option String} {count : Nat}
    {failures : List (Option Failure)} {state : σ} {answer : Except Failure ProofJobsByRun}
    {later : List (Except Failure ProofJobsByRun)}
    (come : answersTo backend run token (count + 1) failures state = answer :: later) :
    ∃ next, heard backend run token (failures.headD none) state = (answer, next) ∧
      answersTo backend run token count failures.tail next = later := by
  obtain ⟨first, rest⟩ := List.cons.inj come
  exact ⟨_, Prod.ext first rfl, rest⟩

/-- So many turns on the agenda, all of the task of a number, lead from one tracking to another. -/
inductive Leads (backend : Backend σ) (store : Option SessionStore) (index : Nat) :
    Nat → Tracking σ → Tracking σ → Prop where
  | done (tracking : Tracking σ) : Leads backend store index 0 tracking tracking
  | turn {turns : Nat} {before next after : Tracking σ}
      (first : before.turn? backend store none = some (.poller index, next))
      (later : Leads backend store index turns next after) :
      Leads backend store index (turns + 1) before after

variable {backend : Backend σ} {store : Option SessionStore} {token : Option String}

theorem Leads.trans {index first second : Nat} {before middle after : Tracking σ}
    (earlier : Leads backend store index first before middle)
    (later : Leads backend store index second middle after) :
    Leads backend store index (first + second) before after := by
  induction earlier with
  | done tracking =>
      rw [Nat.zero_add]
      exact later
  | turn step rest ih =>
      rw [Nat.succ_add]
      exact .turn step (ih later)

theorem Leads.turn?_eq {index : Nat} {before after : Tracking σ}
    (leads : Leads backend store index 1 before after) :
    before.turn? backend store none = some (.poller index, after) := by
  cases leads with
  | turn first later =>
      cases later
      exact first

/-- Turns of a task are taken before anyone else has one. -/
theorem Leads.runUntil {index turns : Nat} {before after : Tracking σ}
    (leads : Leads backend store index turns before after) {target : Waker}
    (other : Waker.poller index ≠ target) (more : Nat) :
    before.runUntil backend store target (turns + more) =
      after.runUntil backend store target more := by
  induction leads with
  | done tracking => rw [Nat.zero_add]
  | turn step rest ih =>
      rw [Nat.succ_add, Tracking.runUntil, step]
      dsimp only
      rw [if_neg other, ih]

/-- The pursuit of a run goes on, and only its task or whoever waits for it is on the agenda. -/
structure Alone (pursuit : Pursuit) (listener : Option Listener) (tracking : Tracking σ)
    (deeds : List Deed) (phase : PollerPhase) : Prop where
  continues : pursuit.Continues tracking deeds
  orderly : tracking.tracker.Orderly
  listener : tracking.listener = listener
  stands : ∃ poller, tracking.tracker.pollers[pursuit.index]? = some poller ∧ poller.phase = phase
  wakers : tracking.tracker.agenda.wakers = tracking.successors pursuit.index phase

variable {pursuit : Pursuit} {listener : Option Listener} {tracking : Tracking σ}
  {deeds : List Deed} {phase : PollerPhase}

/-- Whoever listens decides who goes on after a task. -/
theorem successors_congr {before after : Tracking σ} (same : after.listener = before.listener)
    (index : Nat) (phase : PollerPhase) :
    after.successors index phase = before.successors index phase := by
  unfold successors isWatched
  rw [same]

/-- A task that had its turn on an agenda without anyone else is alone again. -/
theorem Alone.of_handsOver {before after : Tracking σ}
    (continues : pursuit.Continues after deeds) (orderly : after.tracker.Orderly)
    (hands : HandsOver before after pursuit.index phase) (same : before.listener = listener)
    (idle : before.tracker.agenda.wakers = []) :
    Alone pursuit listener after deeds phase where
  continues := continues
  orderly := orderly
  listener := hands.listener.trans same
  stands := hands.stands
  wakers := by
    have left := hands.wakers
    rw [idle, List.append_nil, ← successors_congr hands.listener] at left
    rcases successors_few after pursuit.index phase with nobody | ⟨waker, sole⟩
    · rw [nobody] at left ⊢
      exact List.perm_nil.mp left
    · rw [sole] at left ⊢
      exact List.perm_singleton.mp left

/-- A task that is alone has the next turn, on an agenda without anyone else, unless it has ended. -/
theorem Alone.turn (alone : Alone pursuit listener tracking deeds phase)
    (atWork : ∀ failure, phase ≠ .ended failure) (backend : Backend σ)
    (store : Option SessionStore) :
    ∃ (rest : Agenda) (poller : Poller),
      let popped := tracking.onAgenda fun _ => rest
      let next := popped.wakePoller backend store pursuit.index poller
      rest.wakers = [] ∧ tracking.tracker.pollers[pursuit.index]? = some poller ∧
      poller.phase = phase ∧ poller.run = pursuit.run ∧ poller.cancelled = false ∧
      tracking.tracker.board.isCurrent poller.generation = true ∧
      tracking.turn? backend store none = some (.poller pursuit.index, next) ∧
      pursuit.Continues next (deeds ++ deedsOfTurn backend store popped poller) ∧
      next.tracker.Orderly := by
  obtain ⟨poller, present, stage⟩ := alone.stands
  obtain ⟨same, samePresent, run, generation, wanted, _⟩ := alone.continues.stands
  obtain rfl := Option.some.inj (present.symm.trans samePresent)
  have sole : tracking.tracker.agenda.wakers = [.poller pursuit.index] := by
    rw [alone.wakers]
    cases phase with
    | ended failure => exact absurd rfl (atWork failure)
    | scheduled => rfl
    | fetching token onTheWay due => rfl
    | resting => rfl
  obtain ⟨rest, next, idle⟩ := Agenda.next?_sole sole
  have popped := alone.continues.onAgenda fun _ => rest
  have orderly := orderly_onAgenda alone.orderly fun _ => rest
  have presentThen : (tracking.onAgenda fun _ => rest).tracker.pollers[pursuit.index]? =
      some poller := present
  have went := popped.wake_own backend store orderly
  have onward := happen_onward (tracking.onAgenda fun _ => rest)
    (.turn pursuit.index backend store) orderly
  rw [happen, wake_poller backend store presentThen] at onward
  rw [wake_poller backend store presentThen] at went
  refine ⟨rest, poller, idle, present, stage, run, wanted,
    alone.continues.isCurrent generation, ?_, ?_, onward.orderly⟩
  · rw [turn?, next, ← wake_poller backend store presentThen]
    rfl
  · rw [deedsAt_turn presentThen] at went
    exact went

/-- A task that waits for an answer takes it in at its turn. -/
theorem Alone.takes {sent : Option String} {onTheWay : Option Failure} {due : Rat}
    (alone : Alone pursuit listener tracking deeds (.fetching sent onTheWay due)) (backend : Backend σ)
    (store : Option SessionStore) :
    let brought := heard backend pursuit.run sent onTheWay tracking.backend
    ∃ next phase, Leads backend store pursuit.index 1 tracking next ∧
      Alone pursuit listener next (deeds ++ [.takes sent brought.1]) phase ∧
      next.pacing = tracking.pacing ∧ next.backend = brought.2 := by
  obtain ⟨rest, poller, idle, present, stage, run, wanted, current, turn, continues, orderly⟩ :=
    alone.turn (fun failure => PollerPhase.noConfusion) backend store
  let popped := tracking.onAgenda fun _ => rest
  have received : popped.wakePoller backend store pursuit.index poller =
      popped.receive backend pursuit.index poller sent onTheWay := by
    simp [wakePoller, stage, wanted]
  have done : deedsOfTurn backend store popped poller =
      [.takes sent (heard backend pursuit.run sent onTheWay tracking.backend).1] := by
    simp only [deedsOfTurn, stage, wanted, Bool.false_and, Bool.false_eq_true, if_false,
      answerTo_eq, run]
    rfl
  have quiet : popped.tracker.orders = [] := alone.orderly.quiet
  have presentThen : popped.tracker.pollers[pursuit.index]? = some poller := present
  obtain ⟨phase, hands⟩ := receive_handsOver quiet presentThen wanted backend poller sent onTheWay
  rw [received] at turn orderly
  rw [received, done] at continues
  refine ⟨_, phase, .turn turn (.done _), ?_, hands.pacing, ?_⟩
  · exact .of_handsOver continues orderly hands alone.listener idle
  · rw [hands.backend, run]
    rfl

/-- What a task does at a turn in which it polls under a token. -/
theorem deedsOfTurn_free {poller : Poller} (free : poller.phase.isFree = true)
    (wanted : poller.cancelled = false)
    (current : tracking.tracker.board.isCurrent poller.generation = true)
    (readable : (loadToken store).value = .ok token) :
    deedsOfTurn backend store tracking poller =
      if tracking.pacing.next.1 ≤ 0 then
        [.asks token, .takes token
          (heard backend poller.run token tracking.pacing.next.2.1 tracking.backend).1]
      else [.asks token] := by
  simp only [deedsOfTurn_polls backend store free wanted current, deedsOfPoll, readable, answerTo_eq]

/-- The turn of a task that polls is a fetch on an agenda without anyone else. -/
theorem Alone.begins (alone : Alone pursuit listener tracking deeds phase)
    (free : phase.isFree = true) (backend : Backend σ)
    (readable : (loadToken store).value = .ok token) :
    ∃ (begun : Tracking σ) (asking : Poller),
      let next := begun.fetch backend pursuit.index asking token
      asking.run = pursuit.run ∧ asking.cancelled = false ∧
      begun.tracker.pollers[pursuit.index]? = some asking ∧ begun.tracker.orders = [] ∧
      begun.tracker.agenda.wakers = [] ∧ begun.pacing = tracking.pacing ∧
      begun.backend = tracking.backend ∧ begun.listener = listener ∧
      Leads backend store pursuit.index 1 tracking next ∧ next.tracker.Orderly ∧
      pursuit.Continues next (deeds ++
        if tracking.pacing.next.1 ≤ 0 then
          [.asks token, .takes token
            (heard backend pursuit.run token tracking.pacing.next.2.1 tracking.backend).1]
        else [.asks token]) := by
  have atWork : ∀ failure, phase ≠ .ended failure := by
    rintro failure rfl
    cases free
  obtain ⟨rest, poller, idle, present, stage, run, wanted, current, turn, continues, orderly⟩ :=
    alone.turn atWork backend store
  let popped := tracking.onAgenda fun _ => rest
  have quiet : popped.tracker.orders = [] := alone.orderly.quiet
  have presentThen : popped.tracker.pollers[pursuit.index]? = some poller := present
  have currentThen : popped.tracker.board.isCurrent poller.generation = true := current
  rw [← stage] at free
  rw [deedsOfTurn_free free wanted currentThen readable, run] at continues
  obtain ⟨begun, asking, about, fetched⟩ :=
    wakePoller_polls backend store quiet presentThen currentThen wanted free
  rw [readable] at fetched
  rw [fetched] at turn continues orderly
  have nobody : begun.tracker.agenda.wakers = [] := by
    rw [about.agenda]
    exact idle
  exact ⟨begun, asking, about.run.trans run, about.wanted, about.present, about.quiet, nobody,
    about.pacing, about.backend, about.listener.trans alone.listener, .turn turn (.done _), orderly,
    continues⟩

/-- A task that polls begins a fetch, and takes in its answer if that is there at once. -/
theorem Alone.polls (alone : Alone pursuit listener tracking deeds phase) (free : phase.isFree = true)
    (backend : Backend σ) (readable : (loadToken store).value = .ok token) :
    let brought := heard backend pursuit.run token tracking.pacing.next.2.1 tracking.backend
    ∃ next phase, Leads backend store pursuit.index 1 tracking next ∧
      next.pacing = tracking.pacing.next.2.2 ∧
      if tracking.pacing.next.1 ≤ 0 then
        Alone pursuit listener next (deeds ++ [.asks token, .takes token brought.1]) phase ∧
          next.backend = brought.2
      else
        Alone pursuit listener next (deeds ++ [.asks token]) phase ∧ next.backend = tracking.backend ∧
          ∃ due, phase = .fetching token tracking.pacing.next.2.1 due := by
  obtain ⟨begun, asking, run, wanted, present, quiet, nobody, pacing, state, watched, leads, orderly,
    continues⟩ := alone.begins free backend readable
  dsimp only
  rw [← pacing, ← state, ← run] at continues ⊢
  by_cases now : begun.pacing.next.1 ≤ 0
  · obtain ⟨phase, hands⟩ := fetch_handsOver_now quiet present wanted backend asking token now
    rw [if_pos now] at continues
    refine ⟨_, phase, leads, hands.pacing, ?_⟩
    rw [if_pos now]
    exact ⟨.of_handsOver continues orderly hands watched nobody, hands.backend⟩
  · obtain ⟨due, hands⟩ :=
      fetch_handsOver_later present wanted backend asking token (Rat.not_le.mp now)
    rw [if_neg now] at continues
    refine ⟨_, .fetching token begun.pacing.next.2.1 due, leads, hands.pacing, ?_⟩
    rw [if_neg now]
    exact ⟨.of_handsOver continues orderly hands watched nobody, hands.backend, due, rfl⟩

/-- Where a task stands once it has taken in an answer that it survives. -/
theorem Alone.phase_after_takes {taken : Option String} {answer : Except Failure ProofJobsByRun}
    (alone : Alone pursuit listener tracking deeds phase)
    (last : deeds.getLast? = some (.takes taken answer)) (survives : Survives answer) :
    phase = if isTerminal answer then .ended none else .resting := by
  obtain ⟨poller, present, stage⟩ := alone.stands
  obtain ⟨same, samePresent, _, _, _, exchanges, course⟩ := alone.continues.stands
  obtain rfl := Option.some.inj (present.symm.trans samePresent)
  rw [← stage]
  exact course.phase_after_takes last survives

/-- A task that polls makes one exchange, in one turn if nothing delays it. -/
theorem Alone.exchange (alone : Alone pursuit listener tracking deeds phase) (free : phase.isFree = true)
    (backend : Backend σ) (readable : (loadToken store).value = .ok token)
    {answer : Except Failure ProofJobsByRun} {state : σ}
    (brought : heard backend pursuit.run token (tracking.pacing.failures.headD none)
      tracking.backend = (answer, state))
    (survives : Survives answer) :
    ∃ turns next, 1 ≤ turns ∧ turns ≤ 2 ∧ (tracking.pacing = {} → turns = 1) ∧
      Leads backend store pursuit.index turns tracking next ∧
      Alone pursuit listener next (deeds ++ [.asks token, .takes token answer])
        (if isTerminal answer then .ended none else .resting) ∧
      next.pacing = tracking.pacing.next.2.2 ∧ next.backend = state := by
  have isLast : ∀ earlier : List Deed,
      (earlier ++ [Deed.asks token, .takes token answer]).getLast? =
        some (.takes token answer) := by
    intro earlier
    simp
  have hears : heard backend pursuit.run token tracking.pacing.next.2.1 tracking.backend =
      (answer, state) := brought
  obtain ⟨next, phase, leads, pacing, polled⟩ := alone.polls free backend readable
  by_cases now : tracking.pacing.next.1 ≤ 0
  · rw [if_pos now, hears] at polled
    obtain ⟨stillAlone, sameBackend⟩ := polled
    rw [stillAlone.phase_after_takes (isLast deeds) survives] at stillAlone
    exact ⟨1, next, Nat.le_refl 1, Nat.le_succ 1, fun _ => rfl, leads, stillAlone, pacing,
      sameBackend⟩
  · rw [if_neg now] at polled
    obtain ⟨waiting, sameBackend, due, rfl⟩ := polled
    obtain ⟨last, phase, later, stillAlone, samePacing, lastBackend⟩ := waiting.takes backend store
    rw [sameBackend, hears, List.append_assoc] at stillAlone
    rw [sameBackend, hears] at lastBackend
    rw [stillAlone.phase_after_takes (isLast deeds) survives] at stillAlone
    have delayed : tracking.pacing ≠ {} := by
      intro punctual
      rw [punctual] at now
      exact now Rat.le_refl
    exact ⟨2, last, Nat.le_succ 1, Nat.le_refl 2, fun punctual => absurd punctual delayed,
      leads.trans later, stillAlone, samePacing.trans pacing, lastBackend⟩

/-- The exchanges under a token that some answers belong to. -/
def exchangesUnder (token : Option String) (answers : List (Except Failure ProofJobsByRun)) :
    List Exchange :=
  answers.map fun answer => ⟨token, answer⟩

/-- A task that polls goes on from answer to answer, until it ends at one. -/
theorem Alone.run (backend : Backend σ) (readable : (loadToken store).value = .ok token)
    (answers : List (Except Failure ProofJobsByRun)) :
    ∀ {tracking : Tracking σ} {deeds : List Deed} {phase : PollerPhase},
      Alone pursuit listener tracking deeds phase → phase.isFree = true →
      answersTo backend pursuit.run token answers.length tracking.pacing.failures
        tracking.backend = answers →
      (∀ answer ∈ answers, Survives answer) →
      (∀ answer ∈ answers.dropLast, isTerminal answer = false) →
      ∃ turns next phase, answers.length ≤ turns ∧ turns ≤ 2 * answers.length ∧
        (tracking.pacing = {} → turns = answers.length) ∧
        Leads backend store pursuit.index turns tracking next ∧
        Alone pursuit listener next (deeds ++ deedsOf (exchangesUnder token answers)) phase ∧
        if answers.getLast?.any isTerminal then phase = .ended none else phase.isFree = true := by
  induction answers with
  | nil =>
      intro tracking deeds phase alone free _ _ _
      refine ⟨0, tracking, phase, Nat.le_refl 0, Nat.le_refl 0, fun _ => rfl, .done tracking, ?_,
        free⟩
      rw [show deedsOf (exchangesUnder token []) = [] from rfl, List.append_nil]
      exact alone
  | cons answer rest ih =>
      intro tracking deeds phase alone free come survived unsettled
      obtain ⟨state, brought, areRest⟩ := answersTo_cons come
      obtain ⟨turns, next, least, most, atOnce, leads, stillAlone, pacing, sameBackend⟩ :=
        alone.exchange free backend readable brought (survived answer List.mem_cons_self)
      have failures : next.pacing.failures = tracking.pacing.failures.tail := by
        rw [pacing]
        rfl
      rw [← failures, ← sameBackend] at areRest
      cases rest with
      | nil =>
          refine ⟨turns, next, _, least, most, atOnce, leads, stillAlone, ?_⟩
          cases terminal : isTerminal answer <;> simp [terminal, PollerPhase.isFree]
      | cons second others =>
          rw [unsettled answer List.mem_cons_self] at stillAlone
          obtain ⟨more, last, phase, moreLeast, moreMost, moreAtOnce, later, lastAlone, stage⟩ :=
            ih stillAlone rfl areRest
              (fun answer member => survived answer (List.mem_cons_of_mem _ member))
              fun answer member => unsettled answer (List.mem_cons_of_mem _ member)
          rw [List.append_assoc] at lastAlone
          refine ⟨turns + more, last, phase, ?_, ?_, ?_, leads.trans later, lastAlone, ?_⟩
          · simp only [List.length_cons] at moreLeast ⊢
            omega
          · simp only [List.length_cons] at moreMost ⊢
            omega
          · intro punctual
            have stillPunctual : next.pacing = {} := by
              rw [pacing, punctual]
              rfl
            rw [atOnce punctual, moreAtOnce stillPunctual, Nat.add_comm]
            rfl
          · rw [List.getLast?_cons_cons]
            exact stage

end OtcDesk.Tracking
