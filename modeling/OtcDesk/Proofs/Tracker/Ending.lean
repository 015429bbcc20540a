import OtcDesk.Proofs.Tracker.Waiting

namespace OtcDesk.Tracking

open Tracker

variable {σ : Type}

/-- What is left of a backend once a run was fetched so many times. -/
def fetchedFrom (backend : Backend σ) (run : String) (token : Option String) : Nat → σ → σ
  | 0, state => state
  | count + 1, state =>
    fetchedFrom backend run token count (backend.fetchProofJobs run token state).2

/-- An answer some fetches ahead. -/
theorem getElem?_answersTo (backend : Backend σ) (run : String) (token : Option String)
    (count ahead : Nat) (within : ahead < count) :
    ∀ state : σ, (answersTo backend run token count [] state)[ahead]? =
      some (backend.fetchProofJobs run token (fetchedFrom backend run token ahead state)).1 := by
  induction count generalizing ahead with
  | zero => exact absurd within (Nat.not_lt_zero ahead)
  | succ count ih =>
      intro state
      cases ahead with
      | zero => rfl
      | succ ahead => exact ih ahead (Nat.lt_of_succ_lt_succ within) _

/-- A task does not go on after an answer: it is terminal or is not survived. -/
def Stops (answer : Except Failure ProofJobsByRun) : Prop :=
  Survives answer → isTerminal answer = true

/-- A task that has taken in an answer rests and goes on, or it has ended. -/
theorem Course.rests_or_ended {run : String} {deeds : List Deed} {exchanges : List Exchange}
    {view : View} {phase : PollerPhase} (course : Course run deeds exchanges view phase)
    {token : Option String} {answer : Except Failure ProofJobsByRun}
    (taken : deeds.getLast? = some (.takes token answer)) :
    phase = .resting ∧ ¬ Stops answer ∨ ∃ failure, phase = .ended failure := by
  cases course with
  | unbegun => cases taken
  | waiting exchanges goOn token onTheWay due =>
      rw [List.getLast?_concat] at taken
      cases taken
  | resting exchanges goOn =>
      rw [getLast?_deedsOf] at taken
      obtain ⟨last, isLast, same⟩ := Option.map_eq_some_iff.mp taken
      obtain ⟨_, rfl⟩ := Deed.takes.inj same
      obtain ⟨survives, unsettled⟩ := last.goesOn_iff.mp (goOn last (List.mem_of_getLast? isLast))
      refine .inl ⟨rfl, fun stops => ?_⟩
      rw [stops survives] at unsettled
      cases unsettled
  | finished => exact .inr ⟨_, rfl⟩
  | balked => exact .inr ⟨_, rfl⟩
  | broken => exact .inr ⟨_, rfl⟩

variable {backend : Backend σ} {store : Option SessionStore} {token : Option String}
  {pursuit : Pursuit} {listener : Option Listener} {tracking : Tracking σ} {deeds : List Deed}
  {phase : PollerPhase}

/-- A task that nothing delays makes a whole exchange in one turn. -/
theorem Alone.polls_at_once (alone : Alone pursuit listener tracking deeds phase)
    (free : phase.isFree = true) (punctual : tracking.pacing = {})
    (readable : (loadToken store).value = .ok token) {answer : Except Failure ProofJobsByRun}
    {state : σ}
    (brought : backend.fetchProofJobs pursuit.run token tracking.backend = (answer, state)) :
    ∃ next stage, tracking.turn? backend store none = some (.poller pursuit.index, next) ∧
      next.pacing = {} ∧ next.backend = state ∧
      Alone pursuit listener next (deeds ++ [.asks token, .takes token answer]) stage ∧
      (stage = .resting ∧ ¬ Stops answer ∨ ∃ failure, stage = .ended failure) := by
  have isLast : ∀ earlier : List Deed,
      (earlier ++ [Deed.asks token, .takes token answer]).getLast? =
        some (.takes token answer) := by
    intro earlier
    simp
  obtain ⟨next, stage, leads, pacing, polled⟩ := alone.polls free backend readable
  rw [punctual] at pacing polled
  have hears : heard backend pursuit.run token (Pacing.next {}).2.1 tracking.backend =
      (answer, state) := brought
  rw [if_pos (by decide), hears] at polled
  obtain ⟨stillAlone, reached⟩ := polled
  obtain ⟨poller, present, same⟩ := stillAlone.stands
  obtain ⟨_, again, _, _, _, exchanges, course⟩ := stillAlone.continues.stands
  obtain rfl := Option.some.inj (present.symm.trans again)
  refine ⟨next, stage, leads.turn?_eq, pacing, reached, stillAlone, ?_⟩
  rw [← same]
  exact course.rests_or_ended (isLast deeds)

section Watching

variable {accepts : View → Bool}

theorem isTold_of_watching {index : Nat} (listens : tracking.listener = some (.watching index)) :
    tracking.isTold = false := by
  rw [isTold, listens]

/-- Nobody watches on once an update was refused. -/
theorem watchFor_refused (refused : tracking.tracker.updates.all accepts = false) (turns : Nat) :
    tracking.watchFor backend store accepts turns = tracking := by
  unfold watchFor
  simp [refused]

/-- The turn of a task is watched if one is left. -/
theorem watchFor_poller (untold : tracking.isTold = false)
    (accepted : tracking.tracker.updates.all accepts = true) {index : Nat} {next : Tracking σ}
    (turn : tracking.turn? backend store none = some (.poller index, next)) (turns : Nat) :
    tracking.watchFor backend store accepts (turns + 1) =
      next.watchFor backend store accepts turns := by
  rw [watchFor]
  simp [untold, accepted, turn]

/-- Nobody watches on once no turn is left. -/
theorem watchFor_spent {index : Nat} {next : Tracking σ}
    (turn : tracking.turn? backend store none = some (.poller index, next)) :
    tracking.watchFor backend store accepts 0 = tracking := by
  unfold watchFor
  simp [turn]

/-- Once its task has ended, whoever watches it is told how. -/
theorem Alone.watchFor_ended {failure : Option Failure}
    (alone : Alone pursuit (some (.watching pursuit.index)) tracking deeds (.ended failure))
    (accepted : tracking.tracker.updates.all accepts = true) (turns : Nat) :
    ∃ told, tracking.watchFor backend store accepts turns = told ∧
      told.listener = some (.told (tracking.verdict failure)) ∧
      LooksAs tracking.tracker told.tracker ∧
      told.tracker.pollers = tracking.tracker.pollers ∧ told.backend = tracking.backend := by
  obtain ⟨told, turn, heard, _, looks, pollers, same⟩ := alone.told backend store
  refine ⟨told, ?_, heard, looks, pollers, same⟩
  unfold watchFor
  simp [isTold_of_watching alone.listener, accepted, turn]

/-- A watched task that nothing delays asks the backend about nothing but its run. -/
theorem Alone.watchFor_backend (readable : (loadToken store).value = .ok token) (turns : Nat) :
    ∀ {tracking : Tracking σ} {deeds : List Deed} {phase : PollerPhase},
      Alone pursuit (some (.watching pursuit.index)) tracking deeds phase →
      (phase.isFree = true ∨ ∃ failure, phase = .ended failure) → tracking.pacing = {} →
      ∃ count, (tracking.watchFor backend store accepts turns).backend =
        fetchedFrom backend pursuit.run token count tracking.backend := by
  induction turns with
  | zero =>
      intro tracking deeds phase alone stands punctual
      cases accepted : tracking.tracker.updates.all accepts with
      | false => exact ⟨0, by rw [watchFor_refused accepted]; rfl⟩
      | true =>
          rcases stands with free | ⟨failure, rfl⟩
          · have brought : backend.fetchProofJobs pursuit.run token tracking.backend = (_, _) := rfl
            obtain ⟨next, stage, turn, -⟩ := alone.polls_at_once free punctual readable brought
            exact ⟨0, by rw [watchFor_spent turn]; rfl⟩
          · obtain ⟨told, watched, -, -, -, same⟩ := alone.watchFor_ended accepted 0
            exact ⟨0, by rw [watched, same]; rfl⟩
  | succ turns ih =>
      intro tracking deeds phase alone stands punctual
      cases accepted : tracking.tracker.updates.all accepts with
      | false => exact ⟨0, by rw [watchFor_refused accepted]; rfl⟩
      | true =>
          rcases stands with free | ⟨failure, rfl⟩
          · have brought : backend.fetchProofJobs pursuit.run token tracking.backend = (_, _) := rfl
            obtain ⟨next, stage, turn, pacing, state, stillAlone, stands⟩ :=
              alone.polls_at_once free punctual readable brought
            have goesOn : stage.isFree = true ∨ ∃ failure, stage = .ended failure :=
              stands.imp_left fun rests => by rw [rests.1]; rfl
            obtain ⟨count, reached⟩ := ih stillAlone goesOn pacing
            refine ⟨count + 1, ?_⟩
            rw [watchFor_poller (isTold_of_watching alone.listener) accepted turn, reached, state]
            rfl
          · obtain ⟨told, watched, -, -, -, same⟩ := alone.watchFor_ended accepted (turns + 1)
            exact ⟨0, by rw [watched, same]; rfl⟩

/-- Whoever watches a run that was just activated is alone with its task. -/
theorem watch_launched {activation : Happening σ} {run : String}
    (activates : activation.activation? = some (some run)) (orderly : tracking.tracker.Orderly)
    (turns : Nat) :
    (tracking.happen activation).watch backend store accepts turns =
      { tracking.happen activation with
        listener := some (.watching tracking.tracker.pollers.length) }.watchFor
          backend store accepts turns := by
  rw [watch, lookForHandle_launched activates orderly]

/-- Whoever watches a run asks the backend about nothing but that run. -/
theorem watch_backend {activation : Happening σ} {run : String}
    (activates : activation.activation? = some (some run)) (orderly : tracking.tracker.Orderly)
    (idle : tracking.tracker.agenda.wakers = []) (punctual : tracking.pacing = {})
    (readable : (loadToken store).value = .ok token) (turns : Nat) :
    ∃ count, ((tracking.happen activation).watch backend store accepts turns).backend =
      fetchedFrom backend run token count tracking.backend := by
  obtain ⟨pacing, state⟩ := tracking.activation_keeps activates
  have launched := alone_launched activates orderly idle
    (some (.watching tracking.tracker.pollers.length))
  obtain ⟨count, reached⟩ :=
    launched.watchFor_backend readable turns (.inl rfl) (pacing.trans punctual)
  refine ⟨count, ?_⟩
  rw [watch_launched activates orderly, ← state]
  exact reached

end Watching

end OtcDesk.Tracking
