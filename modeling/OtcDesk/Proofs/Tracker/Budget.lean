import Mathlib.Algebra.GroupWithZero.Nat
import OtcDesk.Proofs.Tracker.Schedule

namespace OtcDesk

/-- What a task may still add to the agenda besides its own next turn. -/
def Poller.credit (poller : Poller) : Nat :=
  if poller.hasEnded then 0 else if poller.cancelled then 2 else 1

namespace Tracker

/-- The credits of all tasks. -/
def credits (tracker : Tracker) : Nat := (tracker.pollers.map (·.credit)).sum

/-- The turns that the agenda and the tasks are good for. -/
def budget (tracker : Tracker) : Nat := tracker.agenda.wakers.length + tracker.credits

theorem sum_credit_set {pollers : List Poller} {index : Nat} {old : Poller} (new : Poller)
    (present : pollers[index]? = some old) :
    ((pollers.set index new).map (·.credit)).sum + old.credit =
      (pollers.map (·.credit)).sum + new.credit := by
  induction pollers generalizing index with
  | nil => simp at present
  | cons first later ih =>
      cases index with
      | zero =>
          obtain rfl := Option.some.inj present
          simp only [List.set_cons_zero, List.map_cons, List.sum_cons]
          omega
      | succ index =>
          have rest := ih present
          simp only [List.set_cons_succ, List.map_cons, List.sum_cons]
          omega

/-- A turn changes the credit of its own task only. -/
theorem TurnFrame.credits {index : Nat} {before after : Tracker} {old new : Poller}
    (frame : TurnFrame index before after) (present : before.pollers[index]? = some old)
    (presentThen : after.pollers[index]? = some new) :
    after.credits + old.credit = before.credits + new.credit := by
  have changed : after.pollers = before.pollers.set index new := by
    apply List.ext_getElem?
    intro other
    by_cases same : other = index
    · subst same
      obtain ⟨bound, _⟩ := List.getElem?_eq_some_iff.mp present
      rw [presentThen, List.getElem?_set_self bound]
    · rw [frame.others other same, List.getElem?_set_ne (Ne.symm same)]
  rw [Tracker.credits, changed]
  exact sum_credit_set new present

end Tracker

namespace Tracking

open Tracker

variable {σ : Type} {backend : Backend σ} {store : Option SessionStore} {tracking : Tracking σ}
  {index : Nat} {poller : Poller}

/-- Whoever ends a task uses up its credit to call whoever waits for that. -/
theorem finish_budget (present : tracking.tracker.pollers[index]? = some poller)
    (atWork : poller.hasEnded = false) (failure : Option Failure) :
    (tracking.finish index failure).tracker.budget ≤ tracking.tracker.budget := by
  have hands := finish_handsOver present failure
  obtain ⟨ended, presentThen, stage⟩ := hands.stands
  have credits := (finish_enters tracking index failure).frame.credits present presentThen
  have spent : ended.credit = 0 := by simp [Poller.credit, Poller.hasEnded, stage]
  have had : 1 ≤ poller.credit := by
    unfold Poller.credit
    rw [atWork]
    cases poller.cancelled <;> decide
  have called := hands.wakers_length
  unfold budget
  omega

/-- A superseded task ends when its answer arrives. -/
theorem receive_retires (backend : Backend σ) (index : Nat) (token : Option String)
    (onTheWay : Option Failure)
    (superseded : tracking.tracker.board.isCurrent poller.generation = false) :
    ∃ (answered : Tracking σ) (failure : Option Failure), answered.tracker = tracking.tracker ∧
      tracking.receive backend index poller token onTheWay = answered.finish index failure := by
  cases read : Outcome.ofAnswer (answerTo backend tracking poller.run token onTheWay) with
  | error failure =>
      obtain ⟨answered, same, received⟩ := receive_error read
      exact ⟨answered, some failure, same, received⟩
  | ok outcome =>
      obtain ⟨answered, same, received⟩ := receive_ok read
      rw [report_superseded _ _ superseded] at same
      refine ⟨answered, none, same, ?_⟩
      rw [received, rest, same]
      simp [superseded]

theorem adopt_credits (present : tracking.tracker.pollers[index]? = some poller) (adopted : Poller)
    (run : adopted.run = poller.run) (generation : adopted.generation = poller.generation) :
    (tracking.adopt index adopted).tracker.credits + poller.credit =
      tracking.tracker.credits + adopted.credit :=
  (adopt_frame present adopted run generation).credits present (adopt_present present adopted)

/-- Whoever puts off a request to stop uses up credit to set an alarm. -/
theorem putOff_budget (present : tracking.tracker.pollers[index]? = some poller)
    (atWork : poller.hasEnded = false) (asked : poller.cancelled = true) (due : Rat) :
    ((tracking.adopt index { poller with cancelled := false }).onAgenda
      (·.setAlarm due (.poller index))).tracker.budget ≤ tracking.tracker.budget := by
  let unasked : Poller := { poller with cancelled := false }
  have credits := adopt_credits present unasked rfl rfl
  have had : poller.credit = 2 := by simp [Poller.credit, atWork, asked]
  have left : unasked.credit = 1 := by
    have still : unasked.hasEnded = false := atWork
    simp [Poller.credit, still, unasked]
  have waits := (Agenda.wakers_setAlarm tracking.tracker.agenda due (.poller index)).length_eq
  rw [List.length_cons] at waits
  show (tracking.tracker.agenda.setAlarm due (.poller index)).wakers.length +
    (tracking.adopt index unasked).tracker.credits ≤ _
  unfold budget
  omega

/-- A task that begins and finds itself superseded ends. -/
theorem began_budget (backend : Backend σ) (store : Option SessionStore)
    (present : tracking.tracker.pollers[index]? = some poller) (atWork : poller.hasEnded = false)
    (superseded : tracking.tracker.board.isCurrent poller.generation = false) (moment : Rat) :
    ((tracking.adopt index { poller with nextAt := moment }).poll backend store index
      { poller with nextAt := moment }).tracker.budget ≤ tracking.tracker.budget := by
  let begun : Poller := { poller with nextAt := moment }
  have credits := adopt_credits present begun rfl rfl
  have same : begun.credit = poller.credit := rfl
  have spent := finish_budget (adopt_present present begun) atWork none
  have kept : (tracking.adopt index begun).tracker.budget = tracking.tracker.budget := by
    show tracking.tracker.agenda.wakers.length + _ = _
    unfold budget
    omega
  rw [poll_superseded backend store (tracking.adopt index begun) index begun superseded]
  omega

/-- The turn of a superseded task does not add to the budget. -/
theorem wakePoller_superseded_budget (backend : Backend σ) (store : Option SessionStore)
    (present : tracking.tracker.pollers[index]? = some poller)
    (superseded : tracking.tracker.board.isCurrent poller.generation = false) :
    (tracking.wakePoller backend store index poller).tracker.budget ≤ tracking.tracker.budget := by
  cases atWork : poller.hasEnded with
  | true =>
      have same : tracking.wakePoller backend store index poller = tracking :=
        wakePoller_ended backend store atWork
      exact Nat.le_of_eq (congrArg (·.tracker.budget) same)
  | false =>
      apply wakePoller_cases
        (motive := fun after => after.tracker.budget ≤ tracking.tracker.budget)
      case idle => exact Nat.le_refl _
      case stopped => exact finish_budget present atWork none
      case putOff =>
        intro asked due
        exact putOff_budget present atWork asked due
      case answered =>
        intro token onTheWay
        obtain ⟨answered, failure, same, received⟩ :=
          receive_retires backend index token onTheWay superseded
        rw [received, ← same]
        rw [← same] at present
        exact finish_budget present atWork failure
      case began =>
        intro moment
        exact began_budget backend store present atWork superseded moment
      case polled =>
        rw [poll_superseded _ _ _ _ _ superseded]
        exact finish_budget present atWork none

/-- A task that is at work and not asked to stop does something at its turn. -/
theorem deedsOfTurn_pos (backend : Backend σ) (store : Option SessionStore)
    (current : tracking.tracker.board.isCurrent poller.generation = true)
    (wanted : poller.cancelled = false) (atWork : poller.hasEnded = false) :
    1 ≤ (deedsOfTurn backend store tracking poller).length := by
  have polls : 1 ≤ (deedsOfPoll backend store tracking poller.run).length := by
    unfold deedsOfPoll
    split
    · exact Nat.le_refl 1
    · split
      · exact Nat.le_succ 1
      · exact Nat.le_refl 1
  cases stage : poller.phase with
  | ended failure => simp [Poller.hasEnded, stage] at atWork
  | fetching token onTheWay due => simp [deedsOfTurn, stage, wanted]
  | scheduled => simpa [deedsOfTurn, stage, wanted, current] using polls
  | resting => simpa [deedsOfTurn, stage, wanted, current] using polls

variable {pursuit : Pursuit} {deeds : List Deed}

/-- The turn of the task of a pursuit adds no more to the budget than it does. -/
theorem Pursuit.Continues.wake_own_budget (continues : pursuit.Continues tracking deeds)
    (orderly : tracking.tracker.Orderly) (backend : Backend σ) (store : Option SessionStore) :
    (tracking.wake backend store (.poller pursuit.index)).tracker.budget ≤
      tracking.tracker.budget +
        (deedsAt pursuit.index tracking (.turn pursuit.index backend store)).length := by
  obtain ⟨poller, present, _, generation, wanted, _⟩ := continues.stands
  obtain ⟨new, presentThen, _, _, stillWanted, _⟩ :=
    (continues.wake_own backend store orderly).stands
  rw [wake_poller backend store present] at presentThen ⊢
  cases atWork : poller.hasEnded with
  | true =>
      rw [wakePoller_ended backend store atWork]
      exact Nat.le_add_right _ _
  | false =>
      have current := continues.isCurrent generation
      have deed := deedsOfTurn_pos backend store current wanted atWork
      obtain ⟨before, phase, hands, agenda⟩ :=
        wakePoller_handsOver backend store orderly.quiet present current wanted atWork
      have called := hands.wakers_length
      rw [agenda] at called
      have credits := (wakePoller_frame backend store orderly.quiet present).credits present
        presentThen
      have had : poller.credit = 1 := by simp [Poller.credit, atWork, wanted]
      have has : new.credit ≤ 1 := by
        simp only [Poller.credit, stillWanted]
        split <;> decide
      rw [deedsAt_turn present]
      unfold budget
      omega

/-- The turn of any other task adds nothing to the budget. -/
theorem Pursuit.Continues.wake_other_budget (continues : pursuit.Continues tracking deeds)
    (orderly : tracking.tracker.Orderly) (backend : Backend σ) (store : Option SessionStore)
    (other : index ≠ pursuit.index) :
    (tracking.wake backend store (.poller index)).tracker.budget ≤ tracking.tracker.budget := by
  cases present : tracking.tracker.pollers[index]? with
  | none =>
      exact Nat.le_of_eq (congrArg (·.tracker.budget) (wake_absent backend store present))
  | some poller =>
      have superseded := continues.superseded orderly present other
      rw [wake_poller backend store present]
      exact wakePoller_superseded_budget backend store present (beq_eq_false_iff_ne.mpr superseded)

/-- Every turn on the agenda is paid for, by the budget or by what the task of the pursuit does. -/
theorem Pursuit.Continues.turn_budget (continues : pursuit.Continues tracking deeds)
    (orderly : tracking.tracker.Orderly) {popped : Waker × Agenda} {limit : Option Rat}
    (next : tracking.tracker.agenda.next? limit = some popped) (backend : Backend σ)
    (store : Option SessionStore) :
    let happenings := happeningsOf backend store tracking popped
    1 + (tracking.after happenings).tracker.budget ≤
      (deedsAlong pursuit.index tracking happenings).length + tracking.tracker.budget := by
  obtain ⟨waker, rest⟩ := popped
  let popped := tracking.onAgenda fun _ => rest
  have continuesThen : pursuit.Continues popped deeds := continues.onAgenda _
  have orderlyThen : popped.tracker.Orderly := orderly_onAgenda orderly _
  have taken : popped.tracker.budget + 1 = tracking.tracker.budget := by
    have fewer := (Agenda.next?_perm next).length_eq
    rw [List.length_cons] at fewer
    show rest.wakers.length + tracking.tracker.credits + 1 = _
    unfold budget
    omega
  cases waker with
  | listener =>
      show 1 + popped.tracker.budget ≤ 0 + _
      omega
  | caller =>
      show 1 + popped.tracker.budget ≤ 0 + _
      omega
  | poller index =>
      show 1 + (popped.wake backend store (.poller index)).tracker.budget ≤
        ([] ++ (deedsAt pursuit.index popped (.turn index backend store) ++ [])).length + _
      rw [List.nil_append, List.append_nil]
      by_cases own : index = pursuit.index
      · subst own
        have spent := continuesThen.wake_own_budget orderlyThen backend store
        omega
      · have spent := continuesThen.wake_other_budget orderlyThen backend store own
        omega

/-- The turns taken are paid for by the budget and by the deeds of the task. -/
theorem Scheduled.turns_le {turns : Nat} {since : List (Happening σ)}
    (scheduled : Scheduled tracking turns since) :
    ∀ {deeds : List Deed}, pursuit.Continues tracking deeds → tracking.tracker.Orderly →
      turns + (tracking.after since).tracker.budget ≤
        (deedsAlong pursuit.index tracking since).length + tracking.tracker.budget := by
  induction scheduled with
  | done tracking =>
      intro deeds _ _
      exact Nat.le_refl _
  | @turn tracking popped turns later backend store limit next rest ih =>
      intro deeds continues orderly
      have noCall := happeningsOf_noCall backend store tracking popped
      have onward := after_onward (happeningsOf backend store tracking popped) tracking orderly
      have first := continues.turn_budget orderly next backend store
      have others := ih (continues.after _ orderly noCall) onward.orderly
      dsimp only at first
      rw [after_append, deedsAlong_append, List.length_append]
      omega

end Tracking

end OtcDesk
