import OtcDesk.Backend.Remote
import OtcDesk.Proofs.Tracker.Elapsing
import OtcDesk.Proofs.Tracker.Grid
import OtcDesk.Proofs.Tracker.Sightings

namespace OtcDesk.Tracking

open Tracker

variable {σ : Type} {tracking : Tracking σ} {index : Nat} {poller : Poller}

/-- Where a task stands after its turn, and when it is to go on. -/
inductive Placed (now planned interval : Rat) : PollerPhase → Rat → List Rat → Prop where
  | waits (token : Option String) (onTheWay : Option Failure) (due : Rat) {latency : Rat}
      (later : 0 < latency) :
      Placed now planned interval (.fetching token onTheWay due) planned [now + latency]
  | rests :
      Placed now planned interval .resting (planned + interval) [max now (planned + interval)]
  | ended (failure : Option Failure) (nextAt : Rat) (moments : List Rat) :
      Placed now planned interval (.ended failure) nextAt moments

/-- The task of a number is placed on the agenda. -/
def IsPlaced (index : Nat) (now planned interval : Rat) (after : Tracking σ) : Prop :=
  ∃ poller, after.tracker.pollers[index]? = some poller ∧
    Placed now planned interval poller.phase poller.nextAt
      (after.tracker.agenda.moments (.poller index))

theorem finish_placed (now planned interval : Rat)
    (present : tracking.tracker.pollers[index]? = some poller) (failure : Option Failure) :
    IsPlaced index now planned interval (tracking.finish index failure) := by
  obtain ⟨ended, isThat, stage⟩ := (finish_handsOver present failure).stands
  refine ⟨ended, isThat, ?_⟩
  rw [stage]
  exact .ended failure _ _

/-- A task that waits for a delay is to go on after it. -/
theorem suspend_moments (present : tracking.tracker.pollers[index]? = some poller)
    (wanted : poller.cancelled = false)
    (free : tracking.tracker.agenda.moments (.poller index) = []) (phase : PollerPhase)
    (seconds : Rat) :
    let after := (tracking.suspend index phase seconds).tracker
    after.pollers[index]? = some { poller with phase } ∧
      after.agenda.moments (.poller index) =
        [if seconds ≤ 0 then tracking.tracker.agenda.now
          else tracking.tracker.agenda.now + seconds] := by
  rw [suspend_wanted present wanted]
  exact ⟨enter_present present phase, Agenda.moments_delay free seconds⟩

/-- A rest lasts until the moment of the next poll, if that is still to come. -/
theorem moment_of_restingTime (now nextAt : Rat) :
    (if restingTime now nextAt ≤ 0 then now else now + restingTime now nextAt) =
      max now nextAt := by
  unfold restingTime
  rcases lt_or_ge now nextAt with ahead | passed
  · rw [if_pos ahead, if_neg (by linarith), max_eq_right ahead.le]
    ring
  · rw [if_neg passed.not_gt, if_pos (le_refl _), max_eq_left passed]

theorem rest_placed (present : tracking.tracker.pollers[index]? = some poller)
    (wanted : poller.cancelled = false)
    (free : tracking.tracker.agenda.moments (.poller index) = []) (asked : Poller) :
    IsPlaced index tracking.tracker.agenda.now asked.nextAt tracking.tracker.interval
      (tracking.rest index asked) := by
  unfold rest
  dsimp only
  split
  · exact finish_placed _ _ _ present none
  · let nextAt := asked.nextAt + tracking.tracker.interval
    have planned : (tracking.onTracker (·.modifyPoller index fun poller =>
        { poller with nextAt })).tracker.pollers[index]? = some { poller with nextAt } := by
      simp [onTracker, modifyPoller, present]
    obtain ⟨stands, moments⟩ := suspend_moments planned wanted free .resting
      (restingTime tracking.tracker.agenda.now nextAt)
    refine ⟨_, stands, ?_⟩
    rw [moments]
    dsimp only [onTracker, modifyPoller]
    rw [moment_of_restingTime]
    exact .rests

theorem receive_placed (quiet : tracking.tracker.orders = [])
    (present : tracking.tracker.pollers[index]? = some poller) (wanted : poller.cancelled = false)
    (free : tracking.tracker.agenda.moments (.poller index) = []) (backend : Backend σ)
    (asking : Poller) (token : Option String) (onTheWay : Option Failure) :
    IsPlaced index tracking.tracker.agenda.now asking.nextAt tracking.tracker.interval
      (tracking.receive backend index asking token onTheWay) := by
  rw [receive_eq]
  let answered : Tracking σ := { tracking with
    backend := (heard backend asking.run token onTheWay tracking.backend).2 }
  have presentThen : answered.tracker.pollers[index]? = some poller := present
  dsimp only
  split
  · exact finish_placed _ _ _ presentThen _
  · rename_i outcome _
    obtain ⟨pollers, agenda, interval⟩ := report_keeps tracking.tracker asking outcome quiet
    let reported := answered.onTracker (report · asking outcome)
    have reportedPresent : reported.tracker.pollers[index]? = some poller := by
      rw [← pollers] at present
      exact present
    have reportedFree : reported.tracker.agenda.moments (.poller index) = [] := by
      rw [← agenda] at free
      exact free
    rw [← agenda, ← interval]
    exact rest_placed reportedPresent wanted reportedFree asking

theorem fetch_placed (quiet : tracking.tracker.orders = [])
    (present : tracking.tracker.pollers[index]? = some poller) (wanted : poller.cancelled = false)
    (free : tracking.tracker.agenda.moments (.poller index) = []) (backend : Backend σ)
    (token : Option String) :
    IsPlaced index tracking.tracker.agenda.now poller.nextAt tracking.tracker.interval
      (tracking.fetch backend index poller token) := by
  obtain ⟨begun, seen, -, fetched⟩ := fetch_eq backend tracking index poller token
  have presentThen : begun.tracker.pollers[index]? = some poller := by
    rw [seen]
    exact present
  have freeThen : begun.tracker.agenda.moments (.poller index) = [] := by
    rw [seen]
    exact free
  have same : begun.tracker.agenda = tracking.tracker.agenda ∧
      begun.tracker.interval = tracking.tracker.interval := by
    rw [seen]
    exact ⟨rfl, rfl⟩
  rw [fetched, ← same.1, ← same.2]
  split
  · have quietThen : begun.tracker.orders = [] := by
      rw [seen]
      exact quiet
    exact receive_placed quietThen presentThen wanted freeThen backend poller token _
  · rename_i later
    obtain ⟨stands, moments⟩ := suspend_moments presentThen wanted freeThen
      (.fetching token tracking.pacing.next.2.1
        (begun.tracker.agenda.now + tracking.pacing.next.1)) tracking.pacing.next.1
    refine ⟨_, stands, ?_⟩
    rw [moments, if_neg later]
    exact .waits token _ _ (not_le.mp later)

/-- The turn of a task of the current generation places it for its next one. -/
theorem wakePoller_placed (backend : Backend σ) (store : Option SessionStore)
    (quiet : tracking.tracker.orders = [])
    (current : tracking.tracker.board.isCurrent poller.generation = true)
    (present : tracking.tracker.pollers[index]? = some poller) (wanted : poller.cancelled = false)
    (free : tracking.tracker.agenda.moments (.poller index) = []) :
    IsPlaced index tracking.tracker.agenda.now (plannedAt tracking.tracker.agenda.now poller)
      tracking.tracker.interval (tracking.wakePoller backend store index poller) := by
  cases isFree : poller.phase.isFree with
  | true =>
      obtain ⟨begun, asking, about, polled⟩ :=
        wakePoller_polls backend store quiet present current wanted isFree
      rw [polled, ← about.planned, ← about.interval, ← about.agenda]
      rw [← about.agenda] at free
      cases (loadToken store).value with
      | error fault => exact finish_placed _ _ _ about.present _
      | ok token => exact fetch_placed about.quiet about.present about.wanted free backend token
  | false =>
      cases stage : poller.phase with
      | scheduled => simp [PollerPhase.isFree, stage] at isFree
      | resting => simp [PollerPhase.isFree, stage] at isFree
      | ended failure =>
          simp only [wakePoller, stage]
          refine ⟨poller, present, ?_⟩
          rw [stage]
          exact .ended failure _ _
      | fetching token onTheWay due =>
          simp only [wakePoller, stage, wanted, Bool.false_and, Bool.false_eq_true, if_false,
            plannedAt]
          exact receive_placed quiet present wanted free backend poller token onTheWay

/-- When the polls of a task began and ended, and when it is to go on. -/
inductive Pace (origin interval : Rat) :
    List Rat → List Rat → PollerPhase → Rat → List Rat → Prop where
  | unbegun (nextAt : Rat) : Pace origin interval [] [] .scheduled nextAt [origin]
  | waiting {starts ends : List Rat} {start finish : Rat}
      (paced : Paced origin interval (starts ++ [start]) ends)
      (level : starts.length = ends.length) (later : start ≤ finish) (token : Option String)
      (onTheWay : Option Failure) (due : Rat) :
      Pace origin interval (starts ++ [start]) ends (.fetching token onTheWay due)
        (origin + ends.length * interval) [finish]
  | resting {starts ends : List Rat} (paced : Paced origin interval starts ends)
      (level : starts.length = ends.length) :
      Pace origin interval starts ends .resting (origin + ends.length * interval)
        [nextStart origin interval ends]
  | ended {starts ends : List Rat} (paced : Paced origin interval starts ends)
      (failure : Option Failure) (nextAt : Rat) (moments : List Rat) :
      Pace origin interval starts ends (.ended failure) nextAt moments

variable {origin interval now nextAt : Rat} {starts ends moments : List Rat}

theorem Pace.paced {phase : PollerPhase}
    (pace : Pace origin interval starts ends phase nextAt moments) :
    Paced origin interval starts ends := by
  cases pace with
  | unbegun => exact .unbegun
  | waiting paced => exact paced
  | resting paced => exact paced
  | ended paced => exact paced

/-- A task that is to poll next has ended all its polls, and is to go on at the moment of that one. -/
theorem Pace.of_free (pace : Pace origin interval starts ends poller.phase poller.nextAt moments)
    (free : poller.phase.isFree = true) :
    starts.length = ends.length ∧ moments = [nextStart origin interval ends] ∧
      ∀ now ∈ moments, plannedAt now poller = origin + ends.length * interval := by
  obtain ⟨run, generation, phase, planned, cancelled⟩ := poller
  dsimp only at pace free
  cases pace with
  | unbegun => exact ⟨rfl, rfl, by simp [plannedAt]⟩
  | waiting => cases free
  | resting _ level => exact ⟨level, rfl, fun _ _ => rfl⟩
  | ended => cases free

/-- A fetch is seen as the beginning of a poll. -/
theorem moments_of_asks (now : Rat) (run : String) (view : View) (token : Option String) :
    let seen := ((Deed.asks token).seen run view).map (now, ·)
    pollStarts seen = [now] ∧ pollEnds seen = [] := ⟨rfl, rfl⟩

/-- So is a fetch that could not begin. -/
theorem moments_of_balks (now : Rat) (run : String) (view : View) (fault : Fault) :
    let seen := ((Deed.balks fault).seen run view).map (now, ·)
    pollStarts seen = [now] ∧ pollEnds seen = [] := ⟨rfl, rfl⟩

/-- An answer ends a poll, and with it perhaps the task. -/
theorem Pace.takes {start : Rat} {before after : View} {answer : Except Failure ProofJobsByRun}
    {next : PollerPhase} (paced : Paced origin interval (starts ++ [start]) ends)
    (level : starts.length = ends.length) (later : start ≤ now)
    (settles : Settles before answer after next)
    (placed : Placed now (origin + ends.length * interval) interval next nextAt moments)
    (run : String) (token : Option String) :
    let seen := ((Deed.takes token answer).seen run before).map (now, ·)
    pollStarts seen = [] ∧
      Pace origin interval (starts ++ [start]) (ends ++ pollEnds seen) next nextAt moments := by
  unfold Settles at settles
  cases read : Outcome.ofAnswer answer with
  | error failure =>
      rw [read] at settles
      obtain ⟨-, rfl⟩ := settles
      simp only [Deed.seen, read, List.map_nil, pollStarts, pollEnds, List.filterMap_nil,
        List.append_nil, true_and]
      exact .ended paced _ _ _
  | ok outcome =>
      rw [read] at settles
      obtain ⟨-, stands⟩ := settles
      have shown : (before.after outcome).loading = false := by
        cases outcome with
        | jobs jobs => rfl
        | failed message => rfl
      simp only [Deed.seen, read, List.map_cons, List.map_nil, pollStarts, pollEnds, shown,
        Bool.false_eq_true, if_false, List.filterMap_cons, List.filterMap_nil, true_and]
      have finished := paced.finishes level later
      cases placed with
      | ended failure => exact .ended finished _ _ _
      | waits token onTheWay due positive => split at stands <;> cases stands
      | rests =>
          have rests := Pace.resting finished (by simp [level])
          rw [nextStart_concat, List.length_append, List.length_singleton] at rests
          have planned : origin + ends.length * interval + interval =
              origin + (ends.length + 1) * interval := by ring
          rw [planned]
          exact_mod_cast rests

/-- The turn of a task keeps its pace. -/
theorem Pace.turn {before after : View} {deeds : List Deed} {next : PollerPhase}
    (pace : Pace origin interval starts ends poller.phase poller.nextAt [now])
    (atWork : poller.hasEnded = false)
    (turn : LiveTurn before after (pending? poller.phase) deeds next)
    (placed : Placed now (plannedAt now poller) interval next nextAt moments) (ofRun : String) :
    let seen := (seenOf ofRun before deeds).map (now, ·)
    Pace origin interval (starts ++ pollStarts seen) (ends ++ pollEnds seen) next nextAt moments := by
  dsimp only
  cases free : poller.phase.isFree with
  | true =>
      obtain ⟨level, isNow, planned⟩ := pace.of_free free
      have paced := pace.paced.begins level
      rw [← List.singleton_inj.mp isNow] at paced
      have nothing : pending? poller.phase = none := by
        cases stage : poller.phase <;> simp [PollerPhase.isFree, stage] at free <;> rfl
      rw [nothing] at turn
      rw [planned now List.mem_cons_self] at placed
      cases turn with
      | balks fault shown =>
          obtain ⟨began, noneEnded⟩ := moments_of_balks now ofRun before fault
          rw [seenOf, seenOf, List.append_nil, began, noneEnded, List.append_nil]
          exact .ended paced _ _ _
      | asks token onTheWay due shown =>
          obtain ⟨began, noneEnded⟩ := moments_of_asks now ofRun before token
          rw [seenOf, seenOf, List.append_nil, began, noneEnded, List.append_nil]
          cases placed with
          | waits _ _ _ positive => exact .waiting paced level (by linarith) token onTheWay due
      | asksAndTakes token answer next settles =>
          obtain ⟨began, noneEnded⟩ := moments_of_asks now ofRun before token
          obtain ⟨noneBegan, takes⟩ := Pace.takes paced level (le_refl now) settles placed ofRun token
          rw [seenOf, seenOf, seenOf, List.append_nil, List.map_append, pollStarts_append,
            pollEnds_append, began, noneEnded]
          dsimp only [Deed.viewAfter]
          rw [noneBegan]
          exact takes
  | false =>
      obtain ⟨run, generation, phase, planned, cancelled⟩ := poller
      dsimp only at pace atWork turn placed free
      cases pace with
      | unbegun => cases free
      | resting => cases free
      | ended => cases atWork
      | waiting paced level later sent onTheWay due =>
          cases turn with
          | takes token answer next settles =>
              obtain ⟨noneBegan, takes⟩ := Pace.takes paced level later settles placed ofRun sent
              rw [seenOf, seenOf, List.append_nil, noneBegan, List.append_nil]
              exact takes

/-- A task at work is to go on at one moment. -/
theorem Pace.sole_moment (pace : Pace origin interval starts ends poller.phase nextAt moments)
    (atWork : poller.hasEnded = false) : ∃ moment, moments = [moment] := by
  obtain ⟨run, generation, phase, planned, cancelled⟩ := poller
  dsimp only at pace
  cases pace with
  | unbegun => exact ⟨_, rfl⟩
  | waiting => exact ⟨_, rfl⟩
  | resting => exact ⟨_, rfl⟩
  | ended => cases atWork

/-- Nobody who is at work after a turn is to go on before it. -/
theorem Placed.le {planned : Rat} (placed : Placed now planned interval poller.phase nextAt moments)
    (atWork : poller.hasEnded = false) : ∀ moment ∈ moments, now ≤ moment := by
  obtain ⟨run, generation, phase, _, cancelled⟩ := poller
  dsimp only at placed
  cases placed with
  | waits _ _ _ later => simpa using later.le
  | rests => simp
  | ended => cases atWork

/-- The task of a number, of which these things were seen, is in its pace and on time. -/
structure KeepsPace (origin interval : Rat) (index : Nat) (tracking : Tracking σ)
    (seen : List (Rat × Sighting)) : Prop where
  every : tracking.tracker.interval = interval
  stands : ∃ poller moments, tracking.tracker.pollers[index]? = some poller ∧
    (tracking.tracker.agenda.moments (.poller index)).Perm moments ∧
    Pace origin interval (pollStarts seen) (pollEnds seen) poller.phase poller.nextAt moments ∧
    (poller.hasEnded = false → tracking.tracker.agenda.IsOnTime (.poller index))

variable {pursuit : Pursuit} {deeds : List Deed} {seen : List (Rat × Sighting)}

/-- Nothing that leaves the task and its moments alone changes its pace. -/
theorem KeepsPace.of_same {after : Tracking σ} (keeps : KeepsPace origin interval index tracking seen)
    (sameInterval : after.tracker.interval = tracking.tracker.interval)
    (same : after.tracker.pollers[index]? = tracking.tracker.pollers[index]?)
    (moments : (after.tracker.agenda.moments (.poller index)).Perm
      (tracking.tracker.agenda.moments (.poller index)))
    (onTime : tracking.tracker.agenda.IsOnTime (.poller index) →
      after.tracker.agenda.IsOnTime (.poller index)) :
    KeepsPace origin interval index after seen := by
  obtain ⟨poller, set, present, are, pace, wasOnTime⟩ := keeps.stands
  exact ⟨sameInterval.trans keeps.every, poller, set, same.trans present, moments.trans are, pace,
    fun atWork => onTime (wasOnTime atWork)⟩

/-- The turn of the task of a pursuit keeps its pace. -/
theorem KeepsPace.own_turn (keeps : KeepsPace origin interval pursuit.index tracking seen)
    (continues : pursuit.Continues tracking deeds) (orderly : tracking.tracker.Orderly)
    {rest : Agenda} {limit : Option Rat}
    (next : tracking.tracker.agenda.next? limit = some (.poller pursuit.index, rest))
    (backend : Backend σ) (store : Option SessionStore) :
    let after := tracking.after (happeningsOf backend store tracking (.poller pursuit.index, rest))
    ∃ later, after.tracker.sightings = tracking.tracker.sightings ++ later ∧
      KeepsPace origin interval pursuit.index after (seen ++ later) := by
  let popped := tracking.onAgenda fun _ => rest
  obtain ⟨poller, moments, present, are, pace, -⟩ := keeps.stands
  obtain ⟨same, samePresent, run, generation, wanted, _⟩ := continues.stands
  obtain rfl := Option.some.inj (present.symm.trans samePresent)
  have presentThen : popped.tracker.pollers[pursuit.index]? = some poller := present
  have quiet : popped.tracker.orders = [] := orderly.quiet
  have current : popped.tracker.board.isCurrent poller.generation = true :=
    continues.isCurrent generation
  have left := (Agenda.moments_of_next? next (.poller pursuit.index)).symm.trans are
  rw [if_pos rfl] at left
  show ∃ later, (popped.wake backend store (.poller pursuit.index)).tracker.sightings =
      tracking.tracker.sightings ++ later ∧
    KeepsPace origin interval pursuit.index
      (popped.wake backend store (.poller pursuit.index)) (seen ++ later)
  rw [wake_poller backend store presentThen]
  cases atWork : poller.hasEnded with
  | true =>
      obtain ⟨failure, stage⟩ := poller.hasEnded_iff.mp atWork
      rw [wakePoller_ended backend store atWork]
      refine ⟨[], (List.append_nil _).symm, keeps.every, poller, _, present, .refl _, ?_, ?_⟩
      · rw [List.append_nil, stage]
        exact .ended pace.paced failure _ _
      · intro isAtWork
        rw [atWork] at isAtWork
        cases isAtWork
  | false =>
      -- its only moment is the present, and nothing else is set for it
      obtain ⟨moment, rfl⟩ := pace.sole_moment atWork
      obtain ⟨isNow, free⟩ := List.cons.inj (List.perm_singleton.mp left)
      obtain ⟨phase, live, ⟨plan, stands⟩⟩ :=
        wakePoller_live backend store quiet current presentThen wanted atWork
      obtain ⟨after, there, placed⟩ :=
        wakePoller_placed backend store quiet current presentThen wanted free
      obtain rfl := Option.some.inj (there.symm.trans stands)
      have sees := wakePoller_sees backend store quiet current presentThen wanted
      have touches := wakePoller_touches backend store popped pursuit.index poller quiet
      rw [← isNow] at pace
      have goesOn := pace.turn atWork live (keeps.every ▸ placed) poller.run
      refine ⟨_, sees.sightings, touches.interval.trans keeps.every, _, _, stands, .refl _, ?_, ?_⟩
      · rw [pollStarts_append, pollEnds_append]
        exact goesOn
      · intro isAtWork moment member
        exact le_of_eq_of_le touches.agenda.now (placed.le isAtWork moment member)

/-- So does the turn of anyone else, in which nothing is seen. -/
theorem KeepsPace.other_turn (keeps : KeepsPace origin interval pursuit.index tracking seen)
    (continues : pursuit.Continues tracking deeds) (orderly : tracking.tracker.Orderly)
    {popped : Waker × Agenda} {limit : Option Rat}
    (next : tracking.tracker.agenda.next? limit = some popped)
    (other : popped.1 ≠ .poller pursuit.index) (backend : Backend σ) (store : Option SessionStore) :
    let after := tracking.after (happeningsOf backend store tracking popped)
    after.tracker.sightings = tracking.tracker.sightings ∧
      KeepsPace origin interval pursuit.index after seen := by
  obtain ⟨moments, onTime⟩ := moments_after_turn orderly.quiet next backend store other
  obtain ⟨waker, rest⟩ := popped
  cases waker with
  | listener => exact ⟨rfl, keeps.of_same rfl rfl moments onTime⟩
  | caller => exact ⟨rfl, keeps.of_same rfl rfl moments onTime⟩
  | poller turned =>
      have different : turned ≠ pursuit.index := fun same => other (congrArg Waker.poller same)
      let onward := tracking.onAgenda fun _ => rest
      have still := continues.onAgenda fun _ => rest
      have orderlyThen := orderly_onAgenda orderly fun _ => rest
      have looks := still.wake_other_looksAs backend store orderlyThen different
      have frame := wake_frame backend store onward turned orderly.quiet
      have touches := wake_touches backend store onward turned orderly.quiet
      have same := frame.others pursuit.index different.symm
      exact ⟨looks.sightings, keeps.of_same touches.interval same moments onTime⟩

/-- As time passes, the task of a pursuit keeps its pace. -/
theorem Elapses.keepsPace {since : List (Happening σ)} (elapses : Elapses tracking since) :
    ∀ {deeds : List Deed} {seen : List (Rat × Sighting)}, pursuit.Continues tracking deeds →
      tracking.tracker.Orderly → KeepsPace origin interval pursuit.index tracking seen →
      ∃ later, (tracking.after since).tracker.sightings = tracking.tracker.sightings ++ later ∧
        KeepsPace origin interval pursuit.index (tracking.after since) (seen ++ later) := by
  induction elapses with
  | done tracking =>
      intro deeds seen _ _ keeps
      exact ⟨[], (List.append_nil _).symm, by rwa [List.append_nil]⟩
  | @turn tracking popped later backend store limit next rest ih =>
      intro deeds seen continues orderly keeps
      have noCall := happeningsOf_noCall backend store tracking popped
      have onward := after_onward (happeningsOf backend store tracking popped) tracking orderly
      have still := continues.after _ orderly noCall
      rw [after_append]
      by_cases own : popped.1 = .poller pursuit.index
      · obtain ⟨waker, agenda⟩ := popped
        dsimp only at own
        subst own
        obtain ⟨first, sees, keepsThen⟩ := keeps.own_turn continues orderly next backend store
        obtain ⟨more, seesMore, keepsOn⟩ := ih still onward.orderly keepsThen
        refine ⟨first ++ more, ?_, ?_⟩
        · rw [seesMore, sees, List.append_assoc]
        · rwa [← List.append_assoc]
      · obtain ⟨nothing, keepsThen⟩ :=
          keeps.other_turn continues orderly next own backend store
        obtain ⟨more, seesMore, keepsOn⟩ := ih still onward.orderly keepsThen
        exact ⟨more, by rw [seesMore, nothing], keepsOn⟩
  | idle moment order idle rest ih =>
      intro deeds seen continues orderly keeps
      have moments := List.Perm.of_eq (Agenda.moments_idle idle (.poller pursuit.index))
      exact ih (continues.onAgenda _) (orderly_onAgenda orderly _)
        (keeps.of_same rfl rfl moments fun _ => .of_idle idle _)
  | @around tracking later agenda pacing listener backend now moments rest ih =>
      intro deeds seen continues orderly keeps
      have noCall : (Happening.drift agenda pacing listener backend).isCall = false := rfl
      refine ih (continues.happen orderly noCall) (orderly_onAgenda orderly fun _ => agenda)
        (keeps.of_same rfl rfl (.of_eq (moments pursuit.index)) ?_)
      intro onTime moment member
      have was : moment ∈ tracking.tracker.agenda.moments (.poller pursuit.index) :=
        moments pursuit.index ▸ member
      exact le_of_eq_of_le now (onTime moment was)

/-- An activation sets its task on its pace. -/
theorem launched_keepsPace {activation : Happening σ} {run : String} (lived : Lived tracking)
    (activates : activation.activation? = some (some run)) :
    KeepsPace tracking.tracker.agenda.now tracking.tracker.interval tracking.tracker.pollers.length
      (tracking.happen activation) [] := by
  have orderly := lived.orderly
  have moments := launched_moments lived.knowsAll orderly activates
  have present := launched_present tracking activates orderly.quiet
  obtain ⟨now, -⟩ := cancel_moments tracking.tracker (Nat.le_refl _)
  refine ⟨?_, _, _, present, .of_eq moments, .unbegun _, fun _ moment member => ?_⟩
  · rw [happen_activation tracking activates orderly.quiet]
    exact cancel_interval tracking.tracker
  · rw [moments, List.mem_singleton] at member
    rw [member, launched_agenda tracking activates orderly.quiet]
    exact le_of_eq now

/-- The polls of a run keep to the grid of intervals, without overlap and never late. -/
theorem polls_keep_to_grid {activation : Happening σ} {run : String} (lived : Lived tracking)
    (activates : activation.activation? = some (some run)) {since : List (Happening σ)}
    (elapses : Elapses (tracking.happen activation) since) :
    let origin := tracking.tracker.agenda.now
    let interval := tracking.tracker.interval
    let launched := tracking.happen activation
    let reached := launched.after since
    ∃ seen, reached.tracker.sightings = launched.tracker.sightings ++ seen ∧
      let starts := pollStarts seen
      let ends := pollEnds seen
      (∀ start : Rat, starts[0]? = some start → start = origin) ∧
      (∀ (k : Nat) (start : Rat), starts[k + 1]? = some start →
        ∃ finish : Rat, ends[k]? = some finish ∧
          start = max finish (origin + (k + 1) * interval)) ∧
      (∀ (j : Nat) (finish : Rat), ends[j]? = some finish →
        (∃ start : Rat, starts[j]? = some start ∧ start ≤ finish) ∧
        ∀ (k : Nat) (start : Rat), j < k → starts[k]? = some start → finish ≤ start) ∧
      (0 < interval → ∀ time : Rat, 0 ≤ time →
        ((starts.filter (· ≤ origin + time)).length : Int) ≤ ⌊time / interval⌋ + 1) ∧
      (∀ (k : Nat) (start : Rat), starts[k]? = some start →
        (∀ j < k, ∀ begun finish : Rat, starts[j]? = some begun → ends[j]? = some finish →
          finish - begun < interval) →
        start = origin + k * interval) ∧
      ∀ poller : Poller,
        reached.tracker.pollers[tracking.tracker.pollers.length]? = some poller →
        poller.phase.isFree = true → starts.length = ends.length ∧
          reached.tracker.agenda.now ≤ nextStart origin interval ends := by
  intro origin interval launched reached
  have continues := pursuitOf_continues activates lived.orderly
  have onward := happen_onward tracking activation lived.orderly
  obtain ⟨seen, sees, keeps⟩ :=
    elapses.keepsPace continues onward.orderly (launched_keepsPace lived activates)
  rw [List.nil_append] at keeps
  obtain ⟨poller, moments, present, are, pace, onTime⟩ := keeps.stands
  have paced := pace.paced
  refine ⟨seen, sees, ?first, ?next, ?apart, ?few, ?short, ?punctual⟩
  case first => exact fun start => paced.first
  case next => exact fun k start => paced.next
  case apart =>
    exact fun j finish ended =>
      ⟨paced.start_le ended, fun k start later => paced.end_le ended later⟩
  case few => exact fun positive time => paced.starts_within positive
  case short => exact fun k start => paced.start_of_short
  case punctual =>
    intro same isThat free
    obtain rfl := Option.some.inj (isThat.symm.trans present)
    obtain ⟨level, rfl, -⟩ := pace.of_free free
    have atWork : same.hasEnded = false := by
      cases stage : same.phase <;> simp [PollerPhase.isFree, stage] at free <;>
        simp [Poller.hasEnded, stage]
    exact ⟨level, onTime atWork _ (are.mem_iff.mpr List.mem_cons_self)⟩

/-- Polls that all fail on the way, of which the second takes seven seconds. -/
def slowSecond : Pacing where
  latencies := [1, 7, 1, 1]
  failures := List.replicate 6 (some (.desk (.transport "no route to the desk" none)))

/-- The polls after a slow one follow at once until they are on the grid again. -/
theorem slow_poll_caught_up :
    let tracking : Tracking Remote :=
      fresh 3 slowSecond { baseUrl := "http://desk", timeout := .ofInt 15 }
    let launched := tracking.happen (.start "run-1")
    ∃ since seen, Elapses launched since ∧
      (launched.after since).tracker.sightings = launched.tracker.sightings ++ seen ∧
      pollStarts seen = [0, 3, 10, 11, 12, 15] ∧ pollEnds seen = [1, 10, 11, 12, 12, 15] ∧
      ∃ finish : Rat, (pollEnds seen)[1]? = some finish ∧ 10 = max finish (0 + (1 + 1) * 3) := by
  intro tracking launched
  have ran : (launched.runTo Remote.backend none 15 20).map (fun reached =>
      (pollStarts (reached.tracker.sightings.drop 1), pollEnds (reached.tracker.sightings.drop 1))) =
        some ([0, 3, 10, 11, 12, 15], [1, 10, 11, 12, 12, 15]) := by
    decide +kernel
  obtain ⟨reached, runs, polls⟩ := Option.map_eq_some_iff.mp ran
  obtain ⟨taken, since, -, scheduled, rfl⟩ := runTo_scheduled Remote.backend none 15 20 runs
  have activates : (Happening.start "run-1" : Happening Remote).activation? =
      some (some "run-1") := rfl
  obtain ⟨seen, sees, -, next, -⟩ :=
    polls_keep_to_grid (.fresh 3 slowSecond _) activates scheduled.elapses
  have opening : launched.tracker.sightings.length = 1 := by decide +kernel
  have same : (launched.after since).tracker.sightings.drop 1 = seen := by
    rw [sees]
    exact List.drop_left' opening
  obtain ⟨starts, ends⟩ := Prod.mk.inj polls
  rw [onAgenda, onTracker, same] at starts ends
  refine ⟨since, seen, scheduled.elapses, sees, starts, ends, ?_⟩
  have third : (pollStarts seen)[1 + 1]? = some 10 := by rw [starts]; rfl
  exact next 1 10 third

end OtcDesk.Tracking
