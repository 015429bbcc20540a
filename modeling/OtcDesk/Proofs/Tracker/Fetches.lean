import OtcDesk.Proofs.Backend.Requests
import OtcDesk.Proofs.Tracker.Frame

namespace OtcDesk

namespace Tracker

/-- A task waits for the proof jobs of a run, which it asked for under a token. -/
def Awaits (tracker : Tracker) (run : String) (token : Option String) : Prop :=
  ∃ (index : Nat) (poller : Poller) (failure : Option Failure) (due : Rat),
    tracker.pollers[index]? = some poller ∧ poller.run = run ∧
      poller.phase = .fetching token failure due

/-- The task of a number is there and follows a run. -/
def Follows (tracker : Tracker) (index : Nat) (run : String) : Prop :=
  ∃ poller : Poller, tracker.pollers[index]? = some poller ∧ poller.run = run

theorem Follows.unique {tracker : Tracker} {index : Nat} {run other : String}
    (follows : tracker.Follows index run) (also : tracker.Follows index other) : other = run := by
  obtain ⟨poller, present, rfl⟩ := follows
  obtain ⟨same, there, rfl⟩ := also
  rw [Option.some.inj (there.symm.trans present)]

/-- No fetch has begun since, and the tasks follow their runs and wait for nothing new. -/
structure FetchesNothing (before after : Tracker) : Prop where
  fetches : after.fetches = before.fetches
  runs : ∀ index run, before.Follows index run → after.Follows index run
  awaits : ∀ run token, after.Awaits run token → before.Awaits run token

theorem FetchesNothing.refl (tracker : Tracker) : FetchesNothing tracker tracker :=
  ⟨rfl, fun _ _ follows => follows, fun _ _ waits => waits⟩

theorem FetchesNothing.trans {first second third : Tracker}
    (earlier : FetchesNothing first second) (later : FetchesNothing second third) :
    FetchesNothing first third where
  fetches := later.fetches.trans earlier.fetches
  runs index run follows := later.runs index run (earlier.runs index run follows)
  awaits run token waits := earlier.awaits run token (later.awaits run token waits)

/-- The tasks and what was seen decide about the fetches. -/
theorem FetchesNothing.of_same {before after : Tracker} (pollers : after.pollers = before.pollers)
    (fetches : after.fetches = before.fetches) : FetchesNothing before after := by
  refine ⟨fetches, ?_, ?_⟩
  · intro index run follows
    rwa [Follows, pollers]
  · intro run token waits
    rwa [Awaits, pollers] at waits

variable {tracker : Tracker} {index : Nat}

theorem getElem?_modifyPoller (tracker : Tracker) (index : Nat) (change : Poller → Poller)
    (other : Nat) :
    (tracker.modifyPoller index change).pollers[other]? =
      if index = other then tracker.pollers[other]?.map change else tracker.pollers[other]? := by
  rw [modifyPoller, List.getElem?_modify]
  split <;> simp

/-- A change that keeps the run of a task keeps all tasks on their runs. -/
theorem Follows.modifyPoller {change : Poller → Poller}
    (keeps : ∀ poller ∈ tracker.pollers[index]?, (change poller).run = poller.run) {other : Nat}
    {run : String} (follows : tracker.Follows other run) :
    (tracker.modifyPoller index change).Follows other run := by
  obtain ⟨poller, present, onRun⟩ := follows
  rw [Follows, getElem?_modifyPoller]
  split
  · rename_i same
    subst same
    exact ⟨change poller, by rw [present, Option.map_some], (keeps poller present).trans onRun⟩
  · exact ⟨poller, present, onRun⟩

/-- An answer that is waited for after a change was waited for before, or by the changed task. -/
theorem Awaits.of_modifyPoller {change : Poller → Poller} {run : String} {token : Option String}
    (waits : (tracker.modifyPoller index change).Awaits run token) :
    tracker.Awaits run token ∨ ∃ poller failure due, tracker.pollers[index]? = some poller ∧
      (change poller).run = run ∧ (change poller).phase = .fetching token failure due := by
  obtain ⟨other, poller, failure, due, present, onRun, fetching⟩ := waits
  rw [getElem?_modifyPoller] at present
  split at present
  · rename_i same
    subst same
    obtain ⟨old, there, rfl⟩ := Option.map_eq_some_iff.mp present
    exact .inr ⟨old, failure, due, there, onRun, fetching⟩
  · exact .inl ⟨other, poller, failure, due, present, onRun, fetching⟩

end Tracker

namespace Tracking

open Tracker

section Waiting

variable {σ : Type} {tracking after : Tracking σ} {index : Nat} {phase : PollerPhase}

/-- A task that enters a phase keeps its run, and waits for an answer only in the phase for that. -/
theorem Enters.follows (enters : tracking.Enters index phase after) (other : Nat) (run : String)
    (follows : tracking.tracker.Follows other run) : after.tracker.Follows other run := by
  obtain ⟨agenda, same⟩ := enters
  rw [same]
  let entered : Poller → Poller := fun poller => { poller with phase }
  have keeps : ∀ poller ∈ tracking.tracker.pollers[index]?, (entered poller).run = poller.run :=
    fun _ _ => rfl
  exact follows.modifyPoller keeps

theorem Enters.awaits (enters : tracking.Enters index phase after) {run : String}
    {token : Option String} (waits : after.tracker.Awaits run token) :
    tracking.tracker.Awaits run token ∨
      tracking.tracker.Follows index run ∧ ∃ failure due, phase = .fetching token failure due := by
  obtain ⟨agenda, same⟩ := enters
  rw [same] at waits
  have entered : (tracking.enter index phase).tracker.Awaits run token := waits
  rcases entered.of_modifyPoller with still | ⟨poller, failure, due, there, onRun, fetching⟩
  · exact .inl still
  · exact .inr ⟨⟨poller, there, onRun⟩, failure, due, fetching⟩

end Waiting

/-- All requests that are noted or waited for were sent. -/
structure Accounted (tracking : Tracking Remote) (sent : List Request) : Prop where
  noted : ∀ request ∈ tracking.backend.requests, request ∈ sent
  awaited : ∀ run token, tracking.tracker.Awaits run token →
    tracking.backend.jobsRequest run token ∈ sent

variable {tracking after : Tracking Remote} {index : Nat} {poller : Poller} {sent : List Request}

theorem Accounted.mono {later : List Request} (accounted : tracking.Accounted sent)
    (more : ∀ request ∈ sent, request ∈ later) : tracking.Accounted later where
  noted request noted := more request (accounted.noted request noted)
  awaited run token waits := more _ (accounted.awaited run token waits)

/-- Where no fetch begins and only requests are made that were sent, nothing is unaccounted for. -/
theorem Accounted.of_fetchesNothing {made : List Request} (accounted : tracking.Accounted sent)
    (nothing : FetchesNothing tracking.tracker after.tracker)
    (makes : tracking.backend.Makes after.backend made) (known : ∀ request ∈ made, request ∈ sent) :
    after.Accounted sent := by
  constructor
  · intro request noted
    rw [makes.requests, List.mem_append] at noted
    rcases noted with before | since
    · exact accounted.noted request before
    · exact known request since
  · intro run token waits
    rw [makes.jobsRequest]
    exact accounted.awaited run token (nothing.awaits run token waits)

/-- These fetches have begun since, and once they are sent everything is accounted for. -/
structure Fetches (before after : Tracking Remote) (begun : List (String × Option String)) :
    Prop where
  fetches : after.tracker.fetches = before.tracker.fetches ++ begun
  address : ∃ made, before.backend.Makes after.backend made
  accounts : ∀ sent, before.Accounted sent →
    (∀ fetch ∈ begun, before.backend.jobsRequest fetch.1 fetch.2 ∈ sent) → after.Accounted sent

theorem Fetches.none (nothing : FetchesNothing tracking.tracker after.tracker)
    (same : after.backend = tracking.backend) : Fetches tracking after [] := by
  have makes : tracking.backend.Makes after.backend [] := same ▸ .refl tracking.backend
  refine ⟨?_, ⟨[], makes⟩, ?_⟩
  · rw [nothing.fetches, List.append_nil]
  · exact fun sent accounted _ => accounted.of_fetchesNothing nothing makes (by simp)

end Tracking

end OtcDesk
