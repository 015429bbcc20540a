import Mathlib.Algebra.Order.Ring.Unbundled.Rat
import OtcDesk.Proofs.Tracker.Schedule

namespace OtcDesk

namespace Agenda

/-- The moments at which someone is to go on. -/
def moments (agenda : Agenda) (waker : Waker) : List Rat :=
  (agenda.ready.filter (· == waker)).map (fun _ => agenda.now) ++
    (agenda.alarms.filter (·.waker == waker)).map (·.due)

/-- The next alarm is the earliest. -/
theorem nextDue?_eq (agenda : Agenda) : agenda.nextDue? = (agenda.alarms.map (·.due)).min? := by
  have earlier (due : Rat) (alarm : Alarm) :
      (if alarm.due < due then alarm.due else due) = min due alarm.due := by
    rcases lt_or_ge alarm.due due with less | notLess
    · rw [if_pos less, min_eq_right less.le]
    · rw [if_neg notLess.not_gt, min_eq_left notLess]
  unfold nextDue?
  cases agenda.alarms with
  | nil => rfl
  | cons first later => simp only [earlier, List.map_cons, List.min?_cons', List.foldl_map]

/-- No alarm is due before the next one, which is set. -/
theorem nextDue?_eq_some {agenda : Agenda} {moment : Rat} (next : agenda.nextDue? = some moment) :
    (∃ alarm ∈ agenda.alarms, alarm.due = moment) ∧ ∀ alarm ∈ agenda.alarms, moment ≤ alarm.due := by
  rw [nextDue?_eq, List.min?_eq_some_iff] at next
  obtain ⟨member, least⟩ := next
  exact ⟨List.mem_map.mp member, fun alarm isSet => least _ (List.mem_map_of_mem isSet)⟩

/-- Time that moves on to the next alarm passes none, so everyone is to go on when they were. -/
theorem moments_moveTo {agenda : Agenda} {moment : Rat} (idle : agenda.ready = [])
    (next : agenda.nextDue? = some moment) (waker : Waker) :
    ((agenda.moveTo moment).moments waker).Perm (agenda.moments waker) := by
  have due : ∀ alarm ∈ agenda.alarms.filter (·.due ≤ moment), alarm.due = moment := by
    intro alarm member
    obtain ⟨isSet, rings⟩ := List.mem_filter.mp member
    exact le_antisymm (of_decide_eq_true rings) ((nextDue?_eq_some next).2 alarm isSet)
  have ringing : ((agenda.alarms.filter (·.due ≤ moment)).filter (·.waker == waker)).map
      (fun _ => moment) =
      ((agenda.alarms.filter (·.due ≤ moment)).filter (·.waker == waker)).map (·.due) :=
    List.map_congr_left fun alarm member => (due alarm (List.mem_filter.mp member).1).symm
  have split := List.filter_append_perm (fun alarm : Alarm => decide (alarm.due ≤ moment))
    agenda.alarms
  have kept := (split.filter (·.waker == waker)).map (·.due)
  rw [List.filter_append, List.map_append, ← ringing] at kept
  simpa [moments, moveTo, idle, List.partition_eq_filter_filter, List.filter_map,
    Function.comp_def] using kept

/-- The next turn is had at a moment that was set, and the others keep theirs. -/
theorem moments_of_next? {agenda rest : Agenda} {limit : Option Rat} {waker : Waker}
    (next : agenda.next? limit = some (waker, rest)) (other : Waker) :
    (agenda.moments other).Perm
      ((if waker = other then [rest.now] else []) ++ rest.moments other) := by
  obtain ⟨ready, isReady, popped, reached⟩ := next?_eq_some next
  have pops : ready.moments other =
      (if waker = other then [rest.now] else []) ++ rest.moments other := by
    rw [popped]
    by_cases same : waker = other
    · simp [moments, isReady, same]
    · simp [moments, isReady, same]
  rw [← pops]
  rcases reached with rfl | ⟨idle, moment, due, rfl⟩
  · exact .refl _
  · exact (moments_moveTo idle due other).symm

/-- Time without a turn comes before every alarm. -/
theorem next?_eq_none {agenda : Agenda} {moment : Rat}
    (idle : agenda.next? (some moment) = none) :
    agenda.ready = [] ∧ ∀ alarm ∈ agenda.alarms, moment < alarm.due := by
  unfold next? at idle
  split at idle
  · cases idle
  · rename_i nobody
    refine ⟨nobody, fun alarm isSet => ?_⟩
    split at idle
    · rename_i noneDue
      rw [nextDue?_eq, List.min?_eq_none_iff, List.map_eq_nil_iff] at noneDue
      rw [noneDue] at isSet
      cases isSet
    · rename_i first due
      split at idle
      · -- the alarm that is due first would ring
        obtain ⟨ringing, present, rfl⟩ := (nextDue?_eq_some due).1
        dsimp only at idle
        split at idle
        · cases idle
        · rename_i silent
          have rings : ringing ∈ agenda.alarms.filter (·.due ≤ ringing.due) :=
            List.mem_filter.mpr ⟨present, by simp⟩
          have goesOn : ringing.waker ∈ (agenda.moveTo ringing.due).ready := by
            rw [moveTo, List.partition_eq_filter_filter]
            exact List.mem_append_right _ (List.mem_map_of_mem rings)
          rw [silent] at goesOn
          cases goesOn
      · rename_i late
        have beyond : moment < first := by simpa [isWithin] using late
        exact beyond.trans_le ((nextDue?_eq_some due).2 alarm isSet)

/-- Whoever is still on the agenda is to go on at a moment to come. -/
def IsOnTime (agenda : Agenda) (waker : Waker) : Prop :=
  ∀ moment ∈ agenda.moments waker, agenda.now ≤ moment

/-- Whoever has the next turn, nobody's moment has passed by then. -/
theorem IsOnTime.of_next? {agenda rest : Agenda} {limit : Option Rat} {waker other : Waker}
    (next : agenda.next? limit = some (waker, rest)) (onTime : agenda.IsOnTime other) :
    rest.IsOnTime other := by
  intro moment member
  have was : moment ∈ agenda.moments other :=
    (moments_of_next? next other).mem_iff.mpr (List.mem_append_right _ member)
  obtain ⟨ready, -, popped, reached⟩ := next?_eq_some next
  rw [popped]
  rcases reached with rfl | ⟨idle, due, isNext, rfl⟩
  · exact onTime moment was
  · simp only [moments, idle, List.filter_nil, List.map_nil, List.nil_append] at was
    obtain ⟨alarm, isSet, rfl⟩ := List.mem_map.mp was
    exact (nextDue?_eq_some isNext).2 alarm (List.mem_filter.mp isSet).1

/-- Time that passes without a turn leaves everyone's moment alone. -/
theorem moments_idle {agenda : Agenda} {moment : Rat}
    (idle : agenda.next? (some moment) = none) (waker : Waker) :
    { agenda with now := moment }.moments waker = agenda.moments waker := by
  simp [moments, (next?_eq_none idle).1]

/-- It does not pass anyone's moment either. -/
theorem IsOnTime.of_idle {agenda : Agenda} {moment : Rat}
    (idle : agenda.next? (some moment) = none) (waker : Waker) :
    { agenda with now := moment }.IsOnTime waker := by
  intro due member
  obtain ⟨nobody, later⟩ := next?_eq_none idle
  simp only [moments, nobody, List.filter_nil, List.map_nil, List.nil_append] at member
  obtain ⟨alarm, isSet, rfl⟩ := List.mem_map.mp member
  exact (later alarm (List.mem_filter.mp isSet).1).le

theorem moments_eq_nil_iff (agenda : Agenda) (waker : Waker) :
    agenda.moments waker = [] ↔
      agenda.ready.filter (· == waker) = [] ∧ agenda.alarms.filter (·.waker == waker) = [] := by
  simp [moments]

/-- Calling someone leaves the moments of others alone. -/
theorem moments_call (agenda : Agenda) {waker other : Waker} (different : waker ≠ other) :
    (agenda.call waker).moments other = agenda.moments other := by
  simp [moments, call, different]

@[simp] theorem now_rouse (agenda : Agenda) (waker : Waker) :
    (agenda.rouse waker).now = agenda.now := by
  unfold rouse
  split <;> rfl

/-- Someone who was not to go on is so after a delay. -/
theorem moments_delay {agenda : Agenda} {waker : Waker} (free : agenda.moments waker = [])
    (seconds : Rat) :
    (agenda.delay seconds waker).moments waker =
      [if seconds ≤ 0 then agenda.now else agenda.now + seconds] := by
  obtain ⟨noneReady, noAlarms⟩ := (moments_eq_nil_iff agenda waker).mp free
  unfold delay
  split
  · simp [moments, call, noneReady, noAlarms]
  · simp [moments, setAlarm, noneReady, noAlarms]

/-- Rousing someone leaves the moments of others alone. -/
theorem moments_rouse (agenda : Agenda) {waker other : Waker} (different : waker ≠ other) :
    (agenda.rouse waker).moments other = agenda.moments other := by
  have kept : (agenda.alarms.filter (·.waker != waker)).filter (·.waker == other) =
      agenda.alarms.filter (·.waker == other) := by
    rw [List.filter_filter]
    apply List.filter_congr
    intro alarm _
    by_cases same : alarm.waker = other
    · simp [same, different.symm]
    · simp [same]
  unfold rouse
  split
  · simp [moments, call, kept, different]
  · rfl

/-- The turn of a task takes no time. -/
theorem TouchedBy.now {index : Nat} {before after : Agenda}
    (touched : TouchedBy index before after) : after.now = before.now := by
  induction touched with
  | nothing => rfl
  | call _ ih => exact ih
  | alarm _ due ih => exact ih
  | rouse _ ih => exact (now_rouse _ _).trans ih
  | tell _ ih => exact ih

/-- It leaves the moments of the other tasks alone. -/
theorem TouchedBy.moments {index other : Nat} {before after : Agenda}
    (touched : TouchedBy index before after) (different : other ≠ index) :
    after.moments (.poller other) = before.moments (.poller other) := by
  have own : Waker.poller index ≠ .poller other := by simpa using different.symm
  induction touched with
  | nothing => rfl
  | call _ ih => exact (moments_call _ own).trans ih
  | alarm _ due ih => simpa [Agenda.moments, Agenda.setAlarm, own] using ih
  | rouse _ ih => exact (moments_rouse _ own).trans ih
  | tell _ ih => exact (moments_call _ Waker.noConfusion).trans ih

end Agenda

namespace Tracking

open Tracker

variable {σ : Type}

/-- These happenings are time that passes: turns as the agenda has them, and spans between them. -/
inductive Elapses : Tracking σ → List (Happening σ) → Prop where
  | done (tracking : Tracking σ) : Elapses tracking []
  | turn {tracking : Tracking σ} {popped : Waker × Agenda} {later : List (Happening σ)}
      (backend : Backend σ) (store : Option SessionStore) (limit : Option Rat)
      (next : tracking.tracker.agenda.next? limit = some popped)
      (rest : Elapses (tracking.after (happeningsOf backend store tracking popped)) later) :
      Elapses tracking (happeningsOf backend store tracking popped ++ later)
  | idle {tracking : Tracking σ} {later : List (Happening σ)} (moment : Rat)
      (order : tracking.tracker.agenda.now ≤ moment)
      (idle : tracking.tracker.agenda.next? (some moment) = none)
      (rest : Elapses (tracking.onAgenda fun agenda => { agenda with now := moment }) later) :
      Elapses tracking (.drift { tracking.tracker.agenda with now := moment } tracking.pacing
        tracking.listener tracking.backend :: later)
  | around {tracking : Tracking σ} {later : List (Happening σ)} (agenda : Agenda)
      (pacing : Pacing) (listener : Option Listener) (backend : σ)
      (now : agenda.now = tracking.tracker.agenda.now)
      (moments : ∀ index, agenda.moments (.poller index) =
        tracking.tracker.agenda.moments (.poller index))
      (rest : Elapses (tracking.happen (.drift agenda pacing listener backend)) later) :
      Elapses tracking (.drift agenda pacing listener backend :: later)

/-- Turns that are taken one after another are time that passes. -/
theorem Scheduled.elapses {tracking : Tracking σ} {turns : Nat} {since : List (Happening σ)}
    (scheduled : Scheduled tracking turns since) : Elapses tracking since := by
  induction scheduled with
  | done tracking => exact .done tracking
  | turn backend store limit next _ ih => exact .turn backend store limit next ih

/-- A turn leaves the moment of every other task alone, and does not let it pass. -/
theorem moments_after_turn {tracking : Tracking σ} {popped : Waker × Agenda} {limit : Option Rat}
    (quiet : tracking.tracker.orders = [])
    (next : tracking.tracker.agenda.next? limit = some popped) (backend : Backend σ)
    (store : Option SessionStore) {index : Nat} (other : popped.1 ≠ .poller index) :
    let after := (tracking.after (happeningsOf backend store tracking popped)).tracker.agenda
    (after.moments (.poller index)).Perm (tracking.tracker.agenda.moments (.poller index)) ∧
      (tracking.tracker.agenda.IsOnTime (.poller index) → after.IsOnTime (.poller index)) := by
  obtain ⟨waker, rest⟩ := popped
  have left := Agenda.moments_of_next? next (.poller index)
  rw [if_neg other, List.nil_append] at left
  have stays : tracking.tracker.agenda.IsOnTime (.poller index) → rest.IsOnTime (.poller index) :=
    .of_next? next
  cases waker with
  | listener => exact ⟨left.symm, stays⟩
  | caller => exact ⟨left.symm, stays⟩
  | poller turned =>
      have touches := wake_touches backend store (tracking.onAgenda fun _ => rest) turned quiet
      have different : index ≠ turned := fun same => other (congrArg Waker.poller same.symm)
      have same := touches.agenda.moments different
      refine ⟨(List.Perm.of_eq same).trans left.symm, fun onTime moment member => ?_⟩
      have isTo : moment ∈ rest.moments (.poller index) := same ▸ member
      exact le_of_eq_of_le touches.agenda.now (stays onTime moment isTo)

/-- A tracking has come about: a tracker was called, and time has passed between the calls. -/
inductive Lived : Tracking σ → Prop where
  | fresh (interval : Rat) (pacing : Pacing) (backend : σ) : Lived (fresh interval pacing backend)
  | call {tracking : Tracking σ} (lived : Lived tracking) {happening : Happening σ}
      (call : happening.isCall = true) : Lived (tracking.happen happening)
  | elapse {tracking : Tracking σ} (lived : Lived tracking) {since : List (Happening σ)}
      (elapses : Elapses tracking since) : Lived (tracking.after since)

theorem Lived.orderly {tracking : Tracking σ} (lived : Lived tracking) :
    tracking.tracker.Orderly := by
  induction lived with
  | fresh interval pacing backend => exact fresh_orderly interval pacing backend
  | call _ _ ih => exact (happen_onward _ _ ih).orderly
  | elapse _ _ ih => exact (after_onward _ _ ih).orderly

/-- Nobody is on the agenda but tasks that were started. -/
def KnowsAll (tracker : Tracker) : Prop :=
  ∀ index, tracker.pollers.length ≤ index → tracker.agenda.moments (.poller index) = []

/-- A cancellation rouses a task that was started, and takes no time. -/
theorem cancel_moments (tracker : Tracker) {index : Nat} (unknown : tracker.pollers.length ≤ index) :
    tracker.cancel.agenda.now = tracker.agenda.now ∧
      tracker.cancel.agenda.moments (.poller index) = tracker.agenda.moments (.poller index) := by
  unfold cancel
  dsimp only
  split
  · rename_i active isActive
    have different : Waker.poller active ≠ .poller index := by
      have started := (Option.filter_eq_some_iff.mp isActive).2
      intro same
      obtain rfl := Waker.poller.inj same
      rw [List.getElem?_eq_none unknown] at started
      cases started
    exact ⟨Agenda.now_rouse _ _, Agenda.moments_rouse _ different⟩
  · exact ⟨rfl, rfl⟩

theorem KnowsAll.activate {tracker : Tracker} (knowsAll : KnowsAll tracker)
    (target : Option String) : KnowsAll (tracker.activate target) := by
  intro index unknown
  rw [activate_pollers, List.length_append, cancel_length] at unknown
  have earlier : tracker.pollers.length ≤ index := Nat.le_of_add_right_le unknown
  obtain ⟨-, same⟩ := cancel_moments tracker earlier
  have free := same.trans (knowsAll index earlier)
  cases target with
  | none => exact free
  | some run =>
      have different : Waker.poller tracker.cancel.pollers.length ≠ .poller index := by
        intro same
        have atIndex := Waker.poller.inj same
        rw [cancel_length] at atIndex
        simp only [Option.toList_some, List.map_singleton, List.length_singleton] at unknown
        omega
      exact (Agenda.moments_call _ different).trans free

/-- The task of an activation is to go on at the very moment of it. -/
theorem launched_moments {tracking : Tracking σ} {activation : Happening σ} {run : String}
    (knowsAll : KnowsAll tracking.tracker) (orderly : tracking.tracker.Orderly)
    (activates : activation.activation? = some (some run)) :
    (tracking.happen activation).tracker.agenda.moments
        (.poller tracking.tracker.pollers.length) = [tracking.tracker.agenda.now] := by
  obtain ⟨now, same⟩ := cancel_moments tracking.tracker (Nat.le_refl _)
  have free := same.trans (knowsAll _ (Nat.le_refl _))
  obtain ⟨noneReady, noAlarms⟩ := (Agenda.moments_eq_nil_iff _ _).mp free
  rw [launched_agenda tracking activates orderly.quiet]
  simp [Agenda.moments, Agenda.call, noneReady, noAlarms, now]

/-- Time that passes brings nobody onto the agenda but tasks that were started. -/
theorem Elapses.knowsAll {tracking : Tracking σ} {since : List (Happening σ)}
    (elapses : Elapses tracking since) (orderly : tracking.tracker.Orderly)
    (knowsAll : KnowsAll tracking.tracker) : KnowsAll (tracking.after since).tracker := by
  induction elapses with
  | done => exact knowsAll
  | @turn tracking popped later backend store limit next rest ih =>
      rw [after_append]
      have noCall := happeningsOf_noCall backend store tracking popped
      have onward := after_onward (happeningsOf backend store tracking popped) tracking orderly
      apply ih onward.orderly
      intro index unknown
      have grown := onward.generations.length_le
      simp only [generations, List.length_map] at grown
      have free := knowsAll index (Nat.le_trans grown unknown)
      have other : popped.1 ≠ .poller index := by
        intro same
        have left := Agenda.moments_of_next? next (.poller index)
        rw [free, if_pos same] at left
        exact List.cons_ne_nil _ _ (List.nil_perm.mp left)
      obtain ⟨left, -⟩ := moments_after_turn orderly.quiet next backend store other
      rw [free] at left
      exact List.perm_nil.mp left
  | idle moment order idle rest ih =>
      apply ih (orderly_onAgenda orderly _)
      intro index unknown
      exact (Agenda.moments_idle idle _).trans (knowsAll index unknown)
  | around agenda pacing listener backend now moments rest ih =>
      apply ih (orderly_onAgenda orderly fun _ => agenda)
      intro index unknown
      exact (moments index).trans (knowsAll index unknown)

theorem Lived.knowsAll {tracking : Tracking σ} (lived : Lived tracking) :
    KnowsAll tracking.tracker := by
  induction lived with
  | fresh interval pacing backend => exact fun _ _ => rfl
  | elapse lived elapses ih => exact elapses.knowsAll lived.orderly ih
  | @call tracking lived happening called ih =>
      refine happening_cases (motive := fun happening => happening.isCall = true →
        KnowsAll (tracking.happen happening).tracker) happening ?activation ?cancel ?noCall called
      case activation =>
        intro target activates _
        rw [happen_activation tracking activates lived.orderly.quiet]
        exact ih.activate target
      case cancel =>
        intro _ index unknown
        rw [happen, onTracker, cancel_length] at unknown
        exact (cancel_moments tracking.tracker unknown).2.trans (ih index unknown)
      case noCall =>
        intro noCall called
        rw [noCall] at called
        cases called

end Tracking

end OtcDesk
