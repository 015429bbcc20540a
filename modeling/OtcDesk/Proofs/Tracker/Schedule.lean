import OtcDesk.Proofs.Tracker.Agenda
import OtcDesk.Proofs.Tracker.Pursuit

namespace OtcDesk

namespace Agenda

/-- Time that moves on makes some of those who wait ready, and forgets nobody. -/
theorem wakers_moveTo (agenda : Agenda) (moment : Rat) :
    (agenda.moveTo moment).wakers.Perm agenda.wakers := by
  have split := List.filter_append_perm (fun alarm : Alarm => decide (alarm.due ≤ moment))
    agenda.alarms
  have kept := (split.map (·.waker)).append_left agenda.ready
  simpa [wakers, moveTo, List.partition_eq_filter_filter, Function.comp_def] using kept

/-- The next turn is that of the first who is ready or, when none is, of the first whose alarm rings. -/
theorem next?_eq_some {agenda rest : Agenda} {limit : Option Rat} {waker : Waker}
    (next : agenda.next? limit = some (waker, rest)) :
    ∃ ready : Agenda, ready.ready = waker :: rest.ready ∧
      rest = { ready with ready := rest.ready } ∧
      (ready = agenda ∨ agenda.ready = [] ∧ ∃ moment, agenda.nextDue? = some moment ∧
        ready = agenda.moveTo moment) := by
  unfold next? at next
  split at next
  · rename_i first others isReady
    obtain ⟨rfl, rfl⟩ := Prod.mk.inj (Option.some.inj next)
    exact ⟨agenda, isReady, rfl, .inl rfl⟩
  · rename_i idle
    split at next
    · cases next
    · rename_i moment due
      split at next
      · dsimp only at next
        split at next
        · rename_i first others isReady
          obtain ⟨rfl, rfl⟩ := Prod.mk.inj (Option.some.inj next)
          exact ⟨agenda.moveTo moment, isReady, rfl, .inr ⟨idle, moment, due, rfl⟩⟩
        · cases next
      · cases next

/-- Whoever has the next turn is taken off the agenda, and nobody else is. -/
theorem next?_perm {agenda rest : Agenda} {limit : Option Rat} {waker : Waker}
    (next : agenda.next? limit = some (waker, rest)) :
    agenda.wakers.Perm (waker :: rest.wakers) := by
  obtain ⟨ready, isReady, popped, reached⟩ := next?_eq_some next
  have pops : ready.wakers = waker :: rest.wakers := by
    rw [popped]
    simp [wakers, isReady]
  rw [← pops]
  rcases reached with rfl | ⟨-, moment, -, rfl⟩
  · exact .refl _
  · exact (wakers_moveTo agenda moment).symm

/-- Rousing someone keeps everyone else on the agenda. -/
theorem mem_wakers_rouse {agenda : Agenda} {waker other : Waker} (different : other ≠ waker)
    (awaited : other ∈ agenda.wakers) : other ∈ (agenda.rouse waker).wakers := by
  unfold rouse
  split
  · rcases List.mem_append.mp awaited with ready | later
    · exact List.mem_append_left _ (List.mem_append_left _ ready)
    · obtain ⟨alarm, isSet, rfl⟩ := List.mem_map.mp later
      apply List.mem_append_right
      apply List.mem_map_of_mem
      exact List.mem_filter.mpr ⟨isSet, by simpa using different⟩
  · exact awaited

/-- What the turn of a task may make of an agenda. -/
inductive TouchedBy (index : Nat) (before : Agenda) : Agenda → Prop where
  | nothing : TouchedBy index before before
  | call {after : Agenda} (touched : TouchedBy index before after) :
      TouchedBy index before (after.call (.poller index))
  | alarm {after : Agenda} (touched : TouchedBy index before after) (due : Rat) :
      TouchedBy index before (after.setAlarm due (.poller index))
  | rouse {after : Agenda} (touched : TouchedBy index before after) :
      TouchedBy index before (after.rouse (.poller index))
  | tell {after : Agenda} (touched : TouchedBy index before after) :
      TouchedBy index before (after.call .listener)

theorem TouchedBy.delay {index : Nat} {before after : Agenda}
    (touched : TouchedBy index before after) (seconds : Rat) :
    TouchedBy index before (after.delay seconds (.poller index)) := by
  unfold Agenda.delay
  split
  · exact touched.call
  · exact touched.alarm _

theorem TouchedBy.trans {index : Nat} {first second third : Agenda}
    (earlier : TouchedBy index first second) (later : TouchedBy index second third) :
    TouchedBy index first third := by
  induction later with
  | nothing => exact earlier
  | call _ ih => exact ih.call
  | alarm _ due ih => exact ih.alarm due
  | rouse _ ih => exact ih.rouse
  | tell _ ih => exact ih.tell

/-- Everyone else is still on the agenda. -/
theorem TouchedBy.mem_wakers {index : Nat} {before after : Agenda}
    (touched : TouchedBy index before after) {waker : Waker} (other : waker ≠ .poller index)
    (awaited : waker ∈ before.wakers) : waker ∈ after.wakers := by
  induction touched with
  | nothing => exact awaited
  | call _ ih => exact (wakers_call _ _).mem_iff.mpr (List.mem_cons_of_mem _ ih)
  | alarm _ due ih => exact (wakers_setAlarm _ due _).mem_iff.mpr (List.mem_cons_of_mem _ ih)
  | rouse _ ih => exact mem_wakers_rouse other ih
  | tell _ ih => exact (wakers_call _ _).mem_iff.mpr (List.mem_cons_of_mem _ ih)

end Agenda

namespace Tracker

/-- The task of a number has touched the agenda, and the interval is the same. -/
structure Touches (index : Nat) (before after : Tracker) : Prop where
  agenda : Agenda.TouchedBy index before.agenda after.agenda
  interval : after.interval = before.interval

theorem Touches.of_same {index : Nat} {before after : Tracker}
    (agenda : after.agenda = before.agenda) (interval : after.interval = before.interval) :
    Touches index before after := ⟨agenda ▸ .nothing, interval⟩

theorem Touches.trans {index : Nat} {first second third : Tracker}
    (earlier : Touches index first second) (later : Touches index second third) :
    Touches index first third :=
  ⟨earlier.agenda.trans later.agenda, later.interval.trans earlier.interval⟩

end Tracker

namespace Tracking

open Tracker

variable {σ : Type} {backend : Backend σ} {store : Option SessionStore} {tracking : Tracking σ}
  {index : Nat} {poller : Poller}

theorem finish_touches (tracking : Tracking σ) (index : Nat) (failure : Option Failure) :
    Touches index tracking.tracker (tracking.finish index failure).tracker := by
  unfold finish
  dsimp only
  split
  · exact ⟨.tell .nothing, rfl⟩
  · exact .of_same rfl rfl

theorem suspend_touches (tracking : Tracking σ) (index : Nat) (phase : PollerPhase)
    (seconds : Rat) :
    Touches index tracking.tracker (tracking.suspend index phase seconds).tracker := by
  have delayed : Agenda.TouchedBy index tracking.tracker.agenda
      (tracking.tracker.agenda.delay seconds (.poller index)) := .delay .nothing seconds
  unfold suspend
  dsimp only
  split
  · exact ⟨delayed.rouse, rfl⟩
  · exact ⟨delayed, rfl⟩

theorem rest_touches (tracking : Tracking σ) (index : Nat) (poller : Poller) :
    Touches index tracking.tracker (tracking.rest index poller).tracker := by
  unfold rest
  dsimp only
  split
  · exact finish_touches tracking index none
  · refine Touches.trans ?_ (suspend_touches _ _ _ _)
    exact .of_same rfl rfl

theorem receive_touches (backend : Backend σ) (index : Nat) (poller : Poller)
    (token : Option String) (onTheWay : Option Failure) (quiet : tracking.tracker.orders = []) :
    Touches index tracking.tracker
      (tracking.receive backend index poller token onTheWay).tracker := by
  rw [receive_eq]
  dsimp only
  split
  · refine Touches.trans ?_ (finish_touches _ _ _)
    exact .of_same rfl rfl
  · rename_i outcome _
    obtain ⟨-, agenda, interval⟩ := report_keeps tracking.tracker poller outcome quiet
    refine Touches.trans ?_ (rest_touches _ _ _)
    exact .of_same agenda interval

theorem fetch_touches (backend : Backend σ) (tracking : Tracking σ) (index : Nat)
    (poller : Poller) (token : Option String) (quiet : tracking.tracker.orders = []) :
    Touches index tracking.tracker (tracking.fetch backend index poller token).tracker := by
  obtain ⟨begun, seen, _, fetched⟩ := fetch_eq backend tracking index poller token
  have quietThen : begun.tracker.orders = [] := by
    rw [seen]
    exact quiet
  have same : Touches index tracking.tracker begun.tracker := by
    rw [seen]
    exact .of_same rfl rfl
  rw [fetched]
  split
  · exact same.trans (receive_touches _ _ _ _ _ quietThen)
  · exact same.trans (suspend_touches _ _ _ _)

theorem poll_touches (backend : Backend σ) (store : Option SessionStore)
    (tracking : Tracking σ) (index : Nat) (poller : Poller) (quiet : tracking.tracker.orders = []) :
    Touches index tracking.tracker (tracking.poll backend store index poller).tracker := by
  cases current : tracking.tracker.board.isCurrent poller.generation with
  | false =>
      rw [poll_superseded _ _ _ _ _ current]
      exact finish_touches _ _ _
  | true =>
      have loads : Touches index tracking.tracker (tracking.loading store).tracker :=
        .of_same rfl rfl
      rw [poll_current quiet current]
      split
      · exact loads.trans (finish_touches _ _ _)
      · exact loads.trans (fetch_touches _ _ _ _ _ quiet)

/-- The turn of a task touches the agenda for itself and the listener alone. -/
theorem wakePoller_touches (backend : Backend σ) (store : Option SessionStore)
    (tracking : Tracking σ) (index : Nat) (poller : Poller) (quiet : tracking.tracker.orders = []) :
    Touches index tracking.tracker
      (tracking.wakePoller backend store index poller).tracker := by
  apply wakePoller_cases (motive := fun after => Touches index tracking.tracker after.tracker)
  case idle => exact .of_same rfl rfl
  case stopped => exact finish_touches _ _ _
  case putOff => exact fun _ due => ⟨.alarm .nothing due, rfl⟩
  case answered => exact fun _ _ => receive_touches _ _ _ _ _ quiet
  case began =>
    intro moment
    refine Touches.trans ?_ (poll_touches _ _ (adopt _ _ { poller with nextAt := moment }) _ _ quiet)
    exact .of_same rfl rfl
  case polled => exact poll_touches _ _ _ _ _ quiet

/-- The task of a number has ended or is on the agenda. -/
def EndedOrAwaited (tracking : Tracking σ) (index : Nat) : Prop :=
  ∃ poller, tracking.tracker.pollers[index]? = some poller ∧
    (poller.hasEnded = true ∨ .poller index ∈ tracking.tracker.agenda.wakers)

theorem HandsOver.endedOrAwaited {before after : Tracking σ} {phase : PollerPhase}
    (hands : HandsOver before after index phase) : after.EndedOrAwaited index := by
  obtain ⟨poller, present, stage⟩ := hands.stands
  refine ⟨poller, present, ?_⟩
  have called := hands.wakers
  cases phase with
  | ended failure => exact .inl (poller.hasEnded_iff.mpr ⟨failure, stage⟩)
  | scheduled => exact .inr (called.mem_iff.mpr List.mem_cons_self)
  | fetching token onTheWay due => exact .inr (called.mem_iff.mpr List.mem_cons_self)
  | resting => exact .inr (called.mem_iff.mpr List.mem_cons_self)

/-- A task at work in the current generation hands over at its turn. -/
theorem wakePoller_handsOver (backend : Backend σ) (store : Option SessionStore)
    (quiet : tracking.tracker.orders = [])
    (present : tracking.tracker.pollers[index]? = some poller)
    (current : tracking.tracker.board.isCurrent poller.generation = true)
    (wanted : poller.cancelled = false) (atWork : poller.hasEnded = false) :
    ∃ before phase, HandsOver before (tracking.wakePoller backend store index poller) index phase ∧
      before.tracker.agenda = tracking.tracker.agenda := by
  cases free : poller.phase.isFree with
  | true =>
      obtain ⟨begun, asking, about, polled⟩ :=
        wakePoller_polls backend store quiet present current wanted free
      rw [polled]
      cases (loadToken store).value with
      | error fault =>
          exact ⟨_, _, finish_handsOver about.present (some (.fault fault)), about.agenda⟩
      | ok token =>
          by_cases now : begun.pacing.next.1 ≤ 0
          · obtain ⟨phase, hands⟩ :=
              fetch_handsOver_now about.quiet about.present about.wanted backend asking token now
            exact ⟨_, phase, hands, about.agenda⟩
          · obtain ⟨due, hands⟩ := fetch_handsOver_later about.present about.wanted backend asking
              token (Rat.not_le.mp now)
            exact ⟨_, _, hands, about.agenda⟩
  | false =>
      cases stage : poller.phase with
      | scheduled => simp [PollerPhase.isFree, stage] at free
      | resting => simp [PollerPhase.isFree, stage] at free
      | ended failure => simp [Poller.hasEnded, stage] at atWork
      | fetching token onTheWay due =>
          have received : tracking.wakePoller backend store index poller =
              tracking.receive backend index poller token onTheWay := by
            simp [wakePoller, stage, wanted]
          obtain ⟨phase, hands⟩ := receive_handsOver quiet present wanted backend poller token
            onTheWay
          rw [received]
          exact ⟨_, phase, hands, rfl⟩

theorem wakePoller_ended (backend : Backend σ) (store : Option SessionStore)
    (ended : poller.hasEnded = true) :
    tracking.wakePoller backend store index poller = tracking := by
  obtain ⟨failure, stage⟩ := poller.hasEnded_iff.mp ended
  rw [wakePoller, stage]

/-- What happens at the turn of someone who was taken off the agenda. -/
def happeningsOf (backend : Backend σ) (store : Option SessionStore) (tracking : Tracking σ) :
    Waker × Agenda → List (Happening σ)
  | (.poller index, rest) =>
    [.drift rest tracking.pacing tracking.listener tracking.backend, .turn index backend store]
  | (.listener, rest) =>
    [.drift rest tracking.pacing (tracking.onAgenda fun _ => rest).wakeListener.listener
      tracking.backend]
  | (.caller, rest) => [.drift rest tracking.pacing tracking.listener tracking.backend]

theorem wakeListener_eq (tracking : Tracking σ) :
    tracking.wakeListener = { tracking with listener := tracking.wakeListener.listener } := by
  unfold wakeListener
  split <;> rfl

/-- A turn on the agenda is made of happenings. -/
theorem turn?_eq (backend : Backend σ) (store : Option SessionStore) (limit : Option Rat)
    (tracking : Tracking σ) :
    tracking.turn? backend store limit = (tracking.tracker.agenda.next? limit).map fun popped =>
      (popped.1, tracking.after (happeningsOf backend store tracking popped)) := by
  unfold turn?
  congr 1
  funext popped
  obtain ⟨waker, rest⟩ := popped
  cases waker with
  | poller index => rfl
  | caller => rfl
  | listener =>
      dsimp only
      rw [wake, wakeListener_eq]
      rfl

/-- These happenings are so many turns, taken one after another as the agenda has them. -/
inductive Scheduled : Tracking σ → Nat → List (Happening σ) → Prop where
  | done (tracking : Tracking σ) : Scheduled tracking 0 []
  | turn {tracking : Tracking σ} {popped : Waker × Agenda} {turns : Nat}
      {later : List (Happening σ)} (backend : Backend σ) (store : Option SessionStore)
      (limit : Option Rat) (next : tracking.tracker.agenda.next? limit = some popped)
      (rest : Scheduled (tracking.after (happeningsOf backend store tracking popped)) turns later) :
      Scheduled tracking (turns + 1) (happeningsOf backend store tracking popped ++ later)

/-- The turns that are taken until a moment are scheduled ones. -/
theorem runTo_scheduled (backend : Backend σ) (store : Option SessionStore) (moment : Rat)
    (turns : Nat) :
    ∀ {tracking reached : Tracking σ}, tracking.runTo backend store moment turns = some reached →
      ∃ taken since, taken < turns ∧ Scheduled tracking taken since ∧
        reached = (tracking.after since).onAgenda fun agenda => { agenda with now := moment } := by
  induction turns with
  | zero =>
      intro tracking reached ran
      cases ran
  | succ turns ih =>
      intro tracking reached ran
      rw [runTo, turn?_eq] at ran
      cases next : tracking.tracker.agenda.next? (some moment) with
      | none =>
          rw [next] at ran
          obtain rfl := Option.some.inj ran
          exact ⟨0, [], Nat.succ_pos turns, .done tracking, rfl⟩
      | some popped =>
          rw [next] at ran
          obtain ⟨taken, since, few, scheduled, rfl⟩ := ih ran
          refine ⟨taken + 1, _, Nat.succ_lt_succ few,
            .turn backend store (some moment) next scheduled, ?_⟩
          rw [after_append]

/-- A turn on the agenda is no call. -/
theorem happeningsOf_noCall (backend : Backend σ) (store : Option SessionStore)
    (tracking : Tracking σ) (popped : Waker × Agenda) :
    ∀ happening ∈ happeningsOf backend store tracking popped, happening.isCall = false := by
  obtain ⟨waker, rest⟩ := popped
  intro happening member
  cases waker with
  | poller index =>
      simp only [happeningsOf, List.mem_cons, List.not_mem_nil, or_false] at member
      rcases member with rfl | rfl
      · rfl
      · rfl
  | listener =>
      rw [List.mem_singleton.mp member]
      rfl
  | caller =>
      rw [List.mem_singleton.mp member]
      rfl

theorem wake_touches (backend : Backend σ) (store : Option SessionStore)
    (tracking : Tracking σ) (index : Nat) (quiet : tracking.tracker.orders = []) :
    Touches index tracking.tracker (tracking.wake backend store (.poller index)).tracker := by
  cases present : tracking.tracker.pollers[index]? with
  | none =>
      rw [wake_absent backend store present]
      exact .of_same rfl rfl
  | some poller =>
      rw [wake_poller backend store present]
      exact wakePoller_touches _ _ _ _ _ quiet

variable {pursuit : Pursuit} {deeds : List Deed}

/-- A turn on the agenda leaves the task of a pursuit ended or on the agenda. -/
theorem Pursuit.Continues.stays (continues : pursuit.Continues tracking deeds)
    (orderly : tracking.tracker.Orderly) (awaited : tracking.EndedOrAwaited pursuit.index)
    {popped : Waker × Agenda} {limit : Option Rat}
    (next : tracking.tracker.agenda.next? limit = some popped) (backend : Backend σ)
    (store : Option SessionStore) :
    (tracking.after (happeningsOf backend store tracking popped)).EndedOrAwaited
      pursuit.index := by
  obtain ⟨waker, rest⟩ := popped
  obtain ⟨poller, present, stage⟩ := awaited
  have quietThen : (tracking.onAgenda fun _ => rest).tracker.orders = [] := orderly.quiet
  have left : waker ≠ .poller pursuit.index →
      poller.hasEnded = true ∨ .poller pursuit.index ∈ rest.wakers := by
    intro other
    rcases stage with ended | waits
    · exact .inl ended
    · rcases List.mem_cons.mp ((Agenda.next?_perm next).mem_iff.mp waits) with same | still
      · exact absurd same.symm other
      · exact .inr still
  cases waker with
  | listener => exact ⟨poller, present, left (by simp)⟩
  | caller => exact ⟨poller, present, left (by simp)⟩
  | poller index =>
      show ((tracking.onAgenda fun _ => rest).wake backend store (.poller index)).EndedOrAwaited
        pursuit.index
      by_cases own : index = pursuit.index
      · subst own
        obtain ⟨same, samePresent, _, generation, wanted, _⟩ := continues.stands
        have current := continues.isCurrent generation
        have presentThen :
            (tracking.onAgenda fun _ => rest).tracker.pollers[pursuit.index]? = some same :=
          samePresent
        rw [wake_poller backend store presentThen]
        cases atWork : same.hasEnded with
        | true =>
            rw [wakePoller_ended backend store atWork]
            exact ⟨same, presentThen, .inl atWork⟩
        | false =>
            obtain ⟨_, _, hands, _⟩ :=
              wakePoller_handsOver backend store quietThen presentThen current wanted atWork
            exact hands.endedOrAwaited
      · have frame := wake_frame backend store (tracking.onAgenda fun _ => rest) index quietThen
        have touches := wake_touches backend store (tracking.onAgenda fun _ => rest) index quietThen
        have other : Waker.poller index ≠ .poller pursuit.index := by simpa using own
        refine ⟨poller, (frame.others pursuit.index (Ne.symm own)).trans present, ?_⟩
        exact (left other).imp_right (touches.agenda.mem_wakers other.symm)

/-- As turns are taken from the agenda, the task of a pursuit stays on it until it has ended. -/
theorem Scheduled.endedOrAwaited {turns : Nat} {since : List (Happening σ)}
    (scheduled : Scheduled tracking turns since) :
    ∀ {deeds : List Deed}, pursuit.Continues tracking deeds → tracking.tracker.Orderly →
      tracking.EndedOrAwaited pursuit.index → (tracking.after since).EndedOrAwaited pursuit.index := by
  induction scheduled with
  | done tracking => exact fun _ _ awaited => awaited
  | @turn tracking popped turns later backend store limit next rest ih =>
      intro deeds continues orderly awaited
      have noCall := happeningsOf_noCall backend store tracking popped
      have onward := after_onward (happeningsOf backend store tracking popped) tracking orderly
      rw [after_append]
      exact ih (continues.after _ orderly noCall) onward.orderly
        (continues.stays orderly awaited next backend store)

end Tracking

end OtcDesk
