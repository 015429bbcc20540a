import OtcDesk.Proofs.Backend.Remote
import OtcDesk.Proofs.Session.Reading
import OtcDesk.Proofs.Tracker.SelfTermination

namespace OtcDesk.Tracking

variable {σ : Type}

/-- A task has ended by an accident, in a poll that is still shown as loading. -/
structure Stranded (run : String) (index : Nat) (tracking : Tracking σ) (deeds : List Deed)
    (exchanges : List Exchange) : Prop where
  deeds : (∃ fault, deeds = deedsOf exchanges ++ [.balks fault]) ∨
    ∃ last, ¬ Survives last.answer ∧ deeds = deedsOf (exchanges ++ [last])
  unsettled : ∀ exchange ∈ exchanges, isTerminal exchange.answer = false
  shows : Shows run (exchanges.map (·.answer)) true tracking.tracker.board.view
  failed : ∃ poller failure, tracking.tracker.pollers[index]? = some poller ∧
    poller.phase = .ended (some failure)

/-- A fetch whose answer is waited for is nothing but a fetch. -/
theorem eq_asks_of_waiting {waiting : Option (Option String)} {deed : Deed}
    (member : deed ∈ (waiting.map Deed.asks).toList) : ∃ token, deed = .asks token := by
  obtain ⟨token, _, same⟩ := Option.map_eq_some_iff.mp (Option.mem_toList.mp member)
  exact ⟨token, same.symm⟩

/-- Exchanges that were survived are no accident, and neither is a fetch after them. -/
theorem unharmed_deedsOf {exchanges : List Exchange}
    (survived : ∀ exchange ∈ exchanges, Survives exchange.answer)
    (waiting : Option (Option String)) :
    Unharmed (deedsOf exchanges ++ (waiting.map Deed.asks).toList) := by
  constructor
  · intro fault balks
    rcases List.mem_append.mp balks with done | opened
    · obtain ⟨exchange, _, deed⟩ := List.mem_flatMap.mp done
      simp at deed
    · obtain ⟨token, same⟩ := eq_asks_of_waiting opened
      cases same
  · intro token answer taken
    rcases List.mem_append.mp taken with done | opened
    · obtain ⟨exchange, member, rfl⟩ := mem_deedsOf_takes done
      exact survived exchange member
    · obtain ⟨_, same⟩ := eq_asks_of_waiting opened
      cases same

theorem unharmed_exchanges {exchanges : List Exchange}
    (survived : ∀ exchange ∈ exchanges, Survives exchange.answer) :
    Unharmed (deedsOf exchanges) := by
  have fine := unharmed_deedsOf survived none
  rwa [Option.map_none, Option.toList_none, List.append_nil] at fine

variable {pursuit : Pursuit} {tracking : Tracking σ} {deeds : List Deed}

/-- A pursuit that has met an accident is stranded. -/
theorem Pursuit.Continues.stranded (continues : pursuit.Continues tracking deeds)
    (harmed : ¬ Unharmed deeds) :
    ∃ exchanges, Stranded pursuit.run pursuit.index tracking deeds exchanges := by
  obtain ⟨poller, present, _, _, _, exchanges, course⟩ := continues.stands
  generalize stage : poller.phase = phase at course
  generalize shown : tracking.tracker.board.view = view at course
  cases course with
  | unbegun =>
      have fine : Unharmed (deedsOf []) := unharmed_exchanges (by simp)
      exact absurd fine harmed
  | waiting exchanges goOn token onTheWay due =>
      have fine := unharmed_deedsOf (Exchange.survived_of_goOn goOn) (some token)
      exact absurd fine harmed
  | resting exchanges goOn =>
      exact absurd (unharmed_exchanges (Exchange.survived_of_goOn goOn)) harmed
  | finished earlier last goOn final =>
      exact absurd (unharmed_exchanges (Exchange.survived_of_final goOn final)) harmed
  | balked exchanges goOn fault =>
      refine ⟨exchanges, .inl ⟨fault, rfl⟩, Exchange.unsettled_of_goOn goOn, ?_, poller, _, present,
        stage⟩
      rw [shown]
      exact (shows_of_goOn pursuit.run goOn).whileLoading
  | broken earlier last failure goOn fatal =>
      refine ⟨earlier, .inr ⟨last, fatal.not_survives, rfl⟩, Exchange.unsettled_of_goOn goOn, ?_,
        poller, _, present, stage⟩
      rw [shown, viewAfter_of_fatal pursuit.run earlier fatal]
      exact (shows_of_goOn pursuit.run goOn).whileLoading

/-- The token of a store cannot be loaded exactly if the store breaks the loading. -/
theorem loadToken_error_iff (store : SessionStore) :
    (∃ fault, (loadToken (some store)).value = .error fault) ↔ store.Breaks := by
  rw [← store.load_error_iff]
  simp only [loadToken]
  cases store.load.value with
  | error fault => simp [Except.map]
  | ok session => simp [Except.map]

/-- A task that is to poll at its next turn balks at a store that cannot be loaded then. -/
theorem Proceeds.balks {index : Nat} (proceeds : tracking.Proceeds index none)
    {store : Option SessionStore} {fault : Fault} (failed : (loadToken store).value = .error fault)
    (backend : Backend σ) :
    deedsAt index tracking (.turn index backend store) = [.balks fault] := by
  -- without a store the same turn makes a fetch, so the task is to poll whatever the store is
  obtain ⟨later, asks⟩ := proceeds backend none none rfl
  simp only [deedsAt, if_true] at asks ⊢
  cases present : tracking.tracker.pollers[index]? with
  | none =>
      rw [present] at asks
      cases asks
  | some poller =>
      rw [present] at asks
      have polled : deedsOfPoll backend store tracking poller.run = [.balks fault] := by
        rw [deedsOfPoll, failed]
      dsimp only [deedsOfTurn] at asks ⊢
      cases stage : poller.phase with
      | ended failure =>
          rw [stage] at asks
          cases asks
      | fetching token onTheWay due =>
          rw [stage] at asks
          dsimp only at asks
          split at asks <;> cases asks
      | scheduled =>
          rw [stage] at asks
          dsimp only at asks ⊢
          split at asks
          · cases asks
          · rename_i polls
            rw [if_neg polls, polled]
      | resting =>
          rw [stage] at asks
          dsimp only at asks ⊢
          split at asks
          · cases asks
          · rename_i polls
            rw [if_neg polls, polled]

/-- A remote answer is survived unless its reply lets a fault escape. -/
theorem survives_fetchProofJobs {remote : Remote} {reply : Reply} {later : List Reply}
    (next : remote.replies = reply :: later) (exchange : reply.IsExchange) (run : String)
    (token : Option String) :
    Survives (Remote.fetchProofJobs run token remote).1 ↔
      ∀ fault, ¬ reply.Escapes ProofJobsByRun.MeetsInfinity fault := by
  have ends := Remote.fetchProofJobs_typedUnless next exchange run token
  constructor
  · intro survives fault escapes
    rw [ends.escapes fault escapes] at survives
    cases escapes with
    | deep nested => cases survives
    | infinite data brings met => cases survives
  · intro fine
    have typed := ends.typed fine
    revert typed
    cases (Remote.fetchProofJobs run token remote).1 with
    | ok found => exact fun _ => trivial
    | error failure =>
        cases failure with
        | desk refusal => exact fun _ => trivial
        | fault cause => exact fun typed => nomatch typed
        | interrupted => exact fun typed => nomatch typed

/-- Polling goes on through every failure but an accident, which ends it in a poll still loading. -/
theorem polling_goes_on_unless_harmed {activation : Happening σ} {run : String}
    (reachable : tracking.Reachable) (activates : activation.activation? = some (some run))
    {since : List (Happening σ)} (noCalls : ∀ happening ∈ since, happening.isCall = false) :
    let index := tracking.tracker.pollers.length
    let launched := tracking.happen activation
    let deeds := deedsAlong index launched since
    let reached := launched.after since
    (Unharmed deeds → ∃ exchanges waiting, Underway run index reached deeds exchanges waiting ∧
      (∀ turns, Scheduled launched turns since →
        turns ≤ deeds.length + launched.tracker.budget ∧
        (isSettled exchanges = false → .poller index ∈ reached.tracker.agenda.wakers)) ∧
      (isSettled exchanges = false → waiting = none → ∀ store : SessionStore, store.Breaks →
        ∃ fault, ∀ backend,
          deedsAt index reached (.turn index backend (some store)) = [.balks fault])) ∧
    (¬ Unharmed deeds → ∃ exchanges, Stranded run index reached deeds exchanges) ∧
    (∀ fault, .balks fault ∈ deeds → ∃ backend store,
      .turn index backend (some store) ∈ since ∧ store.Breaks) ∧
    ∀ remote reply later, remote.replies = reply :: later → reply.IsExchange → ∀ token,
      (Survives (Remote.fetchProofJobs run token remote).1 ↔
        ∀ fault, ¬ reply.Escapes ProofJobsByRun.MeetsInfinity fault) := by
  intro index launched deeds reached
  have orderly := reachable.orderly
  have onward := happen_onward tracking activation orderly
  have continues := (pursuitOf_continues activates orderly).after since onward.orderly noCalls
  refine ⟨?underway, continues.stranded, ?balks, ?remote⟩
  case underway =>
    rintro ⟨readable, survived⟩
    obtain ⟨exchanges, waiting, underway, scheduled⟩ :=
      underway_unless_harmed activates orderly noCalls readable survived
    refine ⟨exchanges, waiting, underway, scheduled, ?_⟩
    rintro unsettled rfl store breaks
    obtain ⟨fault, failed⟩ := (loadToken_error_iff store).mpr breaks
    exact ⟨fault, (underway.proceeds unsettled).2.balks failed⟩
  case balks =>
    intro fault member
    obtain ⟨backend, store, turn, failed⟩ := of_balks_mem_deedsAlong member
    cases store with
    | none => cases failed
    | some store => exact ⟨backend, store, turn, (loadToken_error_iff store).mp ⟨fault, failed⟩⟩
  case remote =>
    intro remote reply later next exchange token
    exact survives_fetchProofJobs next exchange run token

/-- A remote backend with replies to come. -/
def replying (replies : List Reply) : Remote where
  baseUrl := "http://desk"
  timeout := .ofInt 15
  replies := replies

/-- The answer that the job of a run was published. -/
def publishedReply : Reply :=
  .response 200 (Utf8.encode "\x7b\"jobs\": [\x7b\"status\": \"PUBLISHED\"\x7d]\x7d")

/-- A store whose slot holds a role that is no text. -/
def numberedRole : SessionStore where
  slots := some (.memory [("session", "\x7b\"role\": 1\x7d")])
  key := "session"

/-- Failed polls are followed by one that sees the job published, unless the store breaks. -/
theorem failed_polls_are_followed :
    let replies := [.failure "timed out", .response 500 [], publishedReply]
    let launched := (fresh 3 {} (replying replies)).happen (.start "run-1")
    let since := List.replicate 3 (Happening.turn 0 Remote.backend none)
    (∃ exchanges waiting, Underway "run-1" 0 (launched.after since) (deedsAlong 0 launched since)
      exchanges waiting ∧ isSettled exchanges = true) ∧
    let broken := [Happening.turn 0 Remote.backend (some numberedRole)]
    ∃ exchanges, Stranded "run-1" 0 (launched.after broken) (deedsAlong 0 launched broken)
      exchanges := by
  intro replies launched since
  have reachable : (fresh 3 {} (replying replies)).Reachable := ⟨3, {}, _, [], rfl⟩
  have activates : (Happening.start "run-1" : Happening Remote).activation? =
      some (some "run-1") := rfl
  constructor
  · have noCalls : ∀ happening ∈ since, happening.isCall = false := by
      intro happening member
      rw [(List.mem_replicate.mp member).2]
      rfl
    have unharmed : Unharmed (deedsAlong 0 launched since) := by decide +kernel
    have finished : (launched.after since).tracker.board.view.finished = true := by decide +kernel
    obtain ⟨goes, -⟩ := polling_goes_on_unless_harmed reachable activates noCalls
    obtain ⟨exchanges, waiting, underway, -⟩ := goes unharmed
    refine ⟨exchanges, waiting, underway, ?_⟩
    have shown := underway.shows.finished
    rw [List.getLast?_map, Option.any_map] at shown
    exact shown.symm.trans finished
  · intro broken
    have noCalls : ∀ happening ∈ broken, happening.isCall = false := by
      intro happening member
      rw [List.mem_singleton.mp member]
      rfl
    have harmed : ¬ Unharmed (deedsAlong 0 launched broken) := by decide +kernel
    obtain ⟨-, stranded, -⟩ := polling_goes_on_unless_harmed reachable activates noCalls
    exact stranded harmed

/-- An infinite number of attempts ends the polling, although no job was seen. -/
theorem infinite_attempts_end_polling :
    let infinite := Reply.response 200 (Utf8.encode
      "\x7b\"jobs\": [\x7b\"attempt_count\": Infinity\x7d]\x7d")
    let launched := (fresh 3 {} (replying [infinite, publishedReply])).happen (.start "run-1")
    let reached := launched.after (List.replicate 3 (Happening.turn 0 Remote.backend none))
    reached.tracker.pollers.map (·.phase) = [.ended (some (.fault .overflow))] ∧
      reached.tracker.board.view = (View.starting "run-1").whileLoading ∧
      reached.tracker.fetches = [("run-1", none)] ∧ reached.backend.replies = [publishedReply] := by
  decide +kernel

end OtcDesk.Tracking
