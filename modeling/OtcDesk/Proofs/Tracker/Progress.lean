import OtcDesk.Proofs.Tracker.Pursuit
import OtcDesk.Proofs.Tracker.Shown

namespace OtcDesk

/-- The token of the store can be read at a turn. -/
def Happening.StoreReads {σ : Type} : Happening σ → Prop
  | .turn _ _ store => ∃ token, (Tracking.loadToken store).value = .ok token
  | _ => True

namespace Tracking

open Tracker

variable {σ : Type}

/-- A task could load the store whenever it polled, and has survived every answer. -/
def Unharmed (deeds : List Deed) : Prop :=
  (∀ fault, .balks fault ∉ deeds) ∧
    ∀ token answer, .takes token answer ∈ deeds → Survives answer

/-- A deed is no accident. -/
def Deed.isUnharmed : Deed → Bool
  | .asks _ | .takes _ (.ok _) | .takes _ (.error (.desk _)) => true
  | .takes _ (.error (.fault fault)) => fault.isMalformed
  | .takes _ (.error .interrupted) | .balks _ => false

theorem unharmed_iff (deeds : List Deed) : deeds.all Deed.isUnharmed = true ↔ Unharmed deeds := by
  constructor
  · intro looks
    have each := List.all_eq_true.mp looks
    constructor
    · intro fault member
      cases each _ member
    · intro token answer member
      have fine := each _ member
      match answer with
      | .ok found => trivial
      | .error (.desk refusal) => trivial
      | .error (.fault fault) => exact fine
      | .error .interrupted => cases fine
  · rintro ⟨readable, survived⟩
    apply List.all_eq_true.mpr
    intro deed member
    match deed with
    | .asks token => rfl
    | .balks fault => exact absurd member (readable fault)
    | .takes token (.ok found) => rfl
    | .takes token (.error (.desk refusal)) => rfl
    | .takes token (.error (.fault fault)) => exact survived token _ member
    | .takes token (.error .interrupted) => exact (survived token _ member).elim

instance : DecidablePred Unharmed := fun deeds => decidable_of_iff _ (unharmed_iff deeds)

/-- The last of some exchanges brought a terminal answer. -/
def isSettled (exchanges : List Exchange) : Bool :=
  exchanges.getLast?.any (isTerminal ·.answer)

/-- The task of a number has ended by itself. -/
def HasEnded (tracking : Tracking σ) (index : Nat) : Prop :=
  ∃ poller, tracking.tracker.pollers[index]? = some poller ∧ poller.phase = .ended none

/-- The task of a number has not ended. -/
def IsAtWork (tracking : Tracking σ) (index : Nat) : Prop :=
  ∃ poller, tracking.tracker.pollers[index]? = some poller ∧ poller.hasEnded = false

/-- At its next turn a task takes in the answer that it waits for, or begins a fetch. -/
def Proceeds (tracking : Tracking σ) (index : Nat) : Option (Option String) → Prop
  | some token => ∀ backend store,
    ∃ answer, deedsAt index tracking (.turn index backend store) = [.takes token answer]
  | none => ∀ backend store token, (loadToken store).value = .ok token →
    ∃ later, deedsAt index tracking (.turn index backend store) = .asks token :: later

/-- How far the task of a run has come: its exchanges, and the fetch whose answer it waits for. -/
structure Underway (run : String) (index : Nat) (tracking : Tracking σ) (deeds : List Deed)
    (exchanges : List Exchange) (waiting : Option (Option String)) : Prop where
  deeds : deeds = deedsOf exchanges ++ (waiting.map Deed.asks).toList
  unsettled : ∀ exchange ∈ exchanges.dropLast, isTerminal exchange.answer = false
  shows : Shows run (exchanges.map (·.answer)) waiting.isSome tracking.tracker.board.view
  stops : isSettled exchanges = true → waiting = none ∧ tracking.HasEnded index
  proceeds : isSettled exchanges = false →
    tracking.IsAtWork index ∧ tracking.Proceeds index waiting

theorem takes_mem_deedsOf {exchanges : List Exchange} {exchange : Exchange}
    (member : exchange ∈ exchanges) :
    Deed.takes exchange.token exchange.answer ∈ deedsOf exchanges := by
  apply List.mem_flatMap.mpr
  exact ⟨exchange, member, List.mem_cons_of_mem _ List.mem_cons_self⟩

theorem deedsOf_cons (first : Exchange) (later : List Exchange) :
    deedsOf (first :: later) =
      .asks first.token :: .takes first.token first.answer :: deedsOf later := rfl

theorem getLast?_deedsOf (exchanges : List Exchange) :
    (deedsOf exchanges).getLast? =
      exchanges.getLast?.map fun exchange => .takes exchange.token exchange.answer := by
  induction exchanges using List.reverseRecOn with
  | nil => rfl
  | append_singleton earlier last _ =>
      rw [deedsOf_concat, List.getLast?_concat]
      simp

/-- The deeds of a task tell its exchanges, and whether it waits for another answer. -/
theorem deedsOf_inj {waiting : Option (Option String)} {left : List Exchange} :
    ∀ {right : List Exchange},
      deedsOf left ++ (waiting.map Deed.asks).toList = deedsOf right →
      waiting = none ∧ left = right := by
  induction left with
  | nil =>
      intro right same
      cases right with
      | nil =>
          cases waiting with
          | none => exact ⟨rfl, rfl⟩
          | some token => cases same
      | cons first later =>
          cases waiting with
          | none => cases same
          | some token => cases same
  | cons head tail ih =>
      intro right same
      cases right with
      | nil => cases same
      | cons first later =>
          rw [deedsOf_cons, deedsOf_cons] at same
          obtain ⟨_, rest⟩ := List.cons.inj same
          obtain ⟨taken, rest⟩ := List.cons.inj rest
          obtain ⟨idle, equal⟩ := ih rest
          obtain ⟨sameToken, sameAnswer⟩ := Deed.takes.inj taken
          have sameFirst : head = first := congrArg₂ Exchange.mk sameToken sameAnswer
          exact ⟨idle, congrArg₂ List.cons sameFirst equal⟩

/-- Where a task stands once it has taken in an answer that it survives. -/
theorem Course.phase_after_takes {run : String} {deeds : List Deed} {exchanges : List Exchange}
    {view : View} {phase : PollerPhase} (course : Course run deeds exchanges view phase)
    {token : Option String} {answer : Except Failure ProofJobsByRun}
    (taken : deeds.getLast? = some (.takes token answer)) (survives : Survives answer) :
    phase = if isTerminal answer then .ended none else .resting := by
  cases course with
  | unbegun => cases taken
  | waiting exchanges goOn token onTheWay due =>
      rw [List.getLast?_concat] at taken
      cases taken
  | resting exchanges goOn =>
      rw [getLast?_deedsOf] at taken
      obtain ⟨last, isLast, same⟩ := Option.map_eq_some_iff.mp taken
      obtain ⟨_, rfl⟩ := Deed.takes.inj same
      rw [(last.goesOn_iff.mp (goOn last (List.mem_of_getLast? isLast))).2]
      rfl
  | finished earlier last goOn final =>
      rw [getLast?_deedsOf, List.getLast?_concat] at taken
      obtain ⟨_, rfl⟩ := Deed.takes.inj (Option.some.inj taken)
      rw [(last.isFinal_iff.mp final).2]
      rfl
  | balked exchanges goOn fault =>
      rw [List.getLast?_concat] at taken
      cases taken
  | broken earlier last failure goOn fatal =>
      rw [getLast?_deedsOf, List.getLast?_concat] at taken
      obtain ⟨_, rfl⟩ := Deed.takes.inj (Option.some.inj taken)
      exact absurd survives fatal.not_survives

/-- A poll balks exactly if the token of the store cannot be loaded. -/
theorem balks_mem_deedsOfPoll {backend : Backend σ} {store : Option SessionStore}
    {tracking : Tracking σ} {run : String} {fault : Fault} :
    .balks fault ∈ deedsOfPoll backend store tracking run ↔
      (loadToken store).value = .error fault := by
  unfold deedsOfPoll
  cases (loadToken store).value with
  | error found =>
      simp only [List.mem_singleton, Deed.balks.injEq, Except.error.injEq]
      exact eq_comm
  | ok token =>
      dsimp only
      split <;> simp

/-- A task balks only at a store that cannot be loaded. -/
theorem of_balks_mem_deedsOfTurn {backend : Backend σ} {store : Option SessionStore}
    {tracking : Tracking σ} {poller : Poller} {fault : Fault}
    (balks : .balks fault ∈ deedsOfTurn backend store tracking poller) :
    (loadToken store).value = .error fault := by
  unfold deedsOfTurn at balks
  split at balks
  · cases balks
  · split at balks <;> simp at balks
  · split at balks
    · cases balks
    · exact balks_mem_deedsOfPoll.mp balks
  · split at balks
    · cases balks
    · exact balks_mem_deedsOfPoll.mp balks

theorem of_balks_mem_deedsAlong {index : Nat} {happenings : List (Happening σ)} {fault : Fault} :
    ∀ {tracking : Tracking σ}, .balks fault ∈ deedsAlong index tracking happenings →
      ∃ backend store, Happening.turn index backend store ∈ happenings ∧
        (loadToken store).value = .error fault := by
  induction happenings with
  | nil => exact fun balks => nomatch balks
  | cons first later ih =>
      intro tracking balks
      rw [deedsAlong, List.mem_append] at balks
      rcases balks with here | there
      · unfold deedsAt at here
        split at here
        · rename_i turned backend store
          split at here
          · rename_i own
            rw [own]
            split at here
            · exact ⟨backend, store, List.mem_cons_self, of_balks_mem_deedsOfTurn here⟩
            · cases here
          · cases here
        · cases here
      · obtain ⟨backend, store, turn, failed⟩ := ih there
        exact ⟨backend, store, List.mem_cons_of_mem _ turn, failed⟩

theorem deedsAlong_readable (index : Nat) (happenings : List (Happening σ)) (fault : Fault)
    (tracking : Tracking σ) (readable : ∀ happening ∈ happenings, happening.StoreReads) :
    .balks fault ∉ deedsAlong index tracking happenings := by
  intro balks
  obtain ⟨backend, store, turn, failed⟩ := of_balks_mem_deedsAlong balks
  obtain ⟨token, loaded⟩ := readable _ turn
  rw [failed] at loaded
  cases loaded

variable {pursuit : Pursuit} {tracking : Tracking σ} {deeds : List Deed}

/-- A task that is neither superseded nor asked to stop goes on unless it has ended. -/
theorem proceeds_of_current {index : Nat} {poller : Poller}
    (present : tracking.tracker.pollers[index]? = some poller)
    (current : tracking.tracker.board.isCurrent poller.generation = true)
    (wanted : poller.cancelled = false) (atWork : ∀ failure, poller.phase ≠ .ended failure) :
    tracking.IsAtWork index ∧ tracking.Proceeds index (pending? poller.phase) := by
  have polls : ∀ backend store token, (loadToken store).value = .ok token →
      ∃ later, deedsOfPoll backend store tracking poller.run = .asks token :: later := by
    intro backend store token loaded
    unfold deedsOfPoll
    rw [loaded]
    dsimp only
    split
    · exact ⟨_, rfl⟩
    · exact ⟨_, rfl⟩
  have unended : poller.hasEnded = false := by
    rw [Bool.eq_false_iff, ne_eq, poller.hasEnded_iff]
    rintro ⟨failure, isOver⟩
    exact atWork failure isOver
  refine ⟨⟨poller, present, unended⟩, ?_⟩
  cases stage : poller.phase with
  | ended failure => exact absurd stage (atWork failure)
  | fetching token onTheWay due =>
      intro backend store
      rw [deedsAt_turn present, deedsOfTurn, stage]
      simp [wanted]
  | scheduled =>
      intro backend store token loaded
      rw [deedsAt_turn present, deedsOfTurn, stage]
      simpa [wanted, current] using polls backend store token loaded
  | resting =>
      intro backend store token loaded
      rw [deedsAt_turn present, deedsOfTurn, stage]
      simpa [wanted, current] using polls backend store token loaded

theorem isSettled_of_goOn {exchanges : List Exchange}
    (goOn : ∀ exchange ∈ exchanges, exchange.GoesOn) : isSettled exchanges = false := by
  unfold isSettled
  cases last : exchanges.getLast? with
  | none => rfl
  | some exchange => exact Exchange.unsettled_of_goOn goOn exchange (List.mem_of_getLast? last)

/-- What is shown of a run after some exchanges that all let the task go on. -/
theorem shows_of_goOn (run : String) {exchanges : List Exchange}
    (goOn : ∀ exchange ∈ exchanges, exchange.GoesOn) :
    Shows run (exchanges.map (·.answer)) false (viewAfter run exchanges) := by
  apply viewAfter_shows
  · exact Exchange.survived_of_goOn goOn
  · exact fun exchange member =>
      Exchange.unsettled_of_goOn goOn exchange (List.dropLast_subset _ member)

/-- A task whose exchanges all let it go on is underway. -/
theorem underway_of_goOn {run : String} {index : Nat} {exchanges : List Exchange}
    {waiting : Option (Option String)} (goOn : ∀ exchange ∈ exchanges, exchange.GoesOn)
    (shows : Shows run (exchanges.map (·.answer)) waiting.isSome tracking.tracker.board.view)
    (goes : tracking.IsAtWork index ∧ tracking.Proceeds index waiting) :
    Underway run index tracking (deedsOf exchanges ++ (waiting.map Deed.asks).toList) exchanges
      waiting where
  deeds := rfl
  unsettled exchange member :=
    Exchange.unsettled_of_goOn goOn exchange (List.dropLast_subset _ member)
  shows := shows
  stops settled := by
    rw [isSettled_of_goOn goOn] at settled
    cases settled
  proceeds _ := goes

/-- A pursuit that the store and the answers do not end is underway. -/
theorem Pursuit.Continues.underway (continues : pursuit.Continues tracking deeds)
    (readable : ∀ fault, .balks fault ∉ deeds)
    (survived : ∀ token answer, .takes token answer ∈ deeds → Survives answer) :
    ∃ exchanges waiting,
      Underway pursuit.run pursuit.index tracking deeds exchanges waiting := by
  obtain ⟨poller, present, _, generation, wanted, exchanges, course⟩ := continues.stands
  have goes := proceeds_of_current present (continues.isCurrent generation) wanted
  generalize stage : poller.phase = phase at course goes
  generalize shown : tracking.tracker.board.view = view at course
  cases course with
  | unbegun =>
      have none_ : ∀ exchange ∈ ([] : List Exchange), exchange.GoesOn := by simp
      refine ⟨[], none, underway_of_goOn none_ ?_ (goes fun failure => PollerPhase.noConfusion)⟩
      rw [shown]
      exact shows_starting pursuit.run
  | waiting exchanges goOn token onTheWay due =>
      refine ⟨exchanges, some token,
        underway_of_goOn goOn ?_ (goes fun failure => PollerPhase.noConfusion)⟩
      rw [shown]
      exact (shows_of_goOn pursuit.run goOn).whileLoading
  | resting exchanges goOn =>
      rw [← List.append_nil (deedsOf exchanges)]
      refine ⟨exchanges, none,
        underway_of_goOn goOn ?_ (goes fun failure => PollerPhase.noConfusion)⟩
      rw [shown]
      exact shows_of_goOn pursuit.run goOn
  | finished earlier last goOn final =>
      refine ⟨earlier ++ [last], none, (List.append_nil _).symm, Exchange.unsettled_of_last goOn, ?_,
        ?_, ?_⟩
      · rw [shown]
        exact shows_of_final pursuit.run goOn final
      · exact fun _ => ⟨rfl, poller, present, stage⟩
      · intro unsettled
        rw [isSettled, List.getLast?_concat, Option.any_some, (last.isFinal_iff.mp final).2]
          at unsettled
        cases unsettled
  | balked exchanges goOn fault => exact absurd (by simp) (readable fault)
  | broken earlier last failure goOn fatal =>
      have member : last ∈ earlier ++ [last] := List.mem_append_right _ List.mem_cons_self
      exact absurd (survived last.token last.answer (takes_mem_deedsOf member)) fatal.not_survives

end Tracking

end OtcDesk
