import OtcDesk.Backend.Basic
import OtcDesk.Session.Store
import OtcDesk.Tracker.Basic

namespace OtcDesk

/-- How long the coming fetches take, which of them fail, and whether a stop waits for them. -/
structure Pacing where
  latencies : List Rat := []
  failures : List (Option Failure) := []
  shielded : Bool := false
  deriving DecidableEq, Repr

/-- The latency and the failure of the next fetch. -/
def Pacing.next (pacing : Pacing) : Rat × Option Failure × Pacing :=
  (pacing.latencies.headD 0, pacing.failures.headD none,
    { pacing with latencies := pacing.latencies.tail, failures := pacing.failures.tail })

/-- Someone who waits for a polling task to end. -/
inductive Listener where
  /-- It has not looked yet. -/
  | scheduled
  /-- It waits for the task of a number. -/
  | watching (index : Nat)
  /-- It was told the last view, or the failure that ended the task. -/
  | told (result : Except Failure View)
  deriving Repr

/-- A tracker at work on a backend. -/
structure Tracking (σ : Type) where
  tracker : Tracker
  pacing : Pacing := {}
  listener : Option Listener := none
  backend : σ

namespace Tracking

variable {σ : Type}

/-- The tracker is changed. -/
def onTracker (tracking : Tracking σ) (change : Tracker → Tracker) : Tracking σ :=
  { tracking with tracker := change tracking.tracker }

/-- The agenda is changed. -/
def onAgenda (tracking : Tracking σ) (change : Agenda → Agenda) : Tracking σ :=
  tracking.onTracker fun tracker => { tracker with agenda := change tracker.agenda }

/-- The polling task of a number stands elsewhere. -/
def enter (tracking : Tracking σ) (index : Nat) (phase : PollerPhase) : Tracking σ :=
  tracking.onTracker (·.modifyPoller index fun poller => { poller with phase })

/-- A listener waits for the task of a number. -/
def isWatched (tracking : Tracking σ) (index : Nat) : Bool :=
  match tracking.listener with
  | some (.watching watched) => watched == index
  | _ => false

/-- A polling task ends, and the listener is called. -/
def finish (tracking : Tracking σ) (index : Nat) (failure : Option Failure) : Tracking σ :=
  let ended := tracking.enter index (.ended failure)
  if ended.isWatched index then ended.onAgenda (·.call .listener) else ended

/-- A polling task waits for a delay, or not at all if it was asked to stop. -/
def suspend (tracking : Tracking σ) (index : Nat) (phase : PollerPhase) (seconds : Rat) :
    Tracking σ :=
  let waiting := (tracking.enter index phase).onAgenda (·.delay seconds (.poller index))
  if waiting.tracker.pollers[index]?.any (·.cancelled) then
    waiting.onAgenda (·.rouse (.poller index))
  else waiting

/-- How long a task rests before the poll that is planned at a moment. -/
def restingTime (now nextAt : Rat) : Rat := if now < nextAt then nextAt - now else 0

/-- After a poll, the task ends or rests until the next one. -/
def rest (tracking : Tracking σ) (index : Nat) (poller : Poller) : Tracking σ :=
  let tracker := tracking.tracker
  if !tracker.board.isCurrent poller.generation || tracker.board.view.finished then
    tracking.finish index none
  else
    let nextAt := poller.nextAt + tracker.interval
    (tracking.onTracker (·.modifyPoller index fun poller => { poller with nextAt })).suspend index
      .resting (restingTime tracker.agenda.now nextAt)

/-- What came of a poll is published, if the task is still of the current generation. -/
def report (tracker : Tracker) (poller : Poller) (outcome : Outcome) : Tracker :=
  if tracker.board.isCurrent poller.generation then
    { tracker with remarks := tracker.remarks ++ outcome.remarks poller.run }.publish
      poller.generation (tracker.board.view.after outcome)
  else tracker

/-- The answer to a fetch arrives: the backend's, or a failure on the way. -/
def receive (backend : Backend σ) (tracking : Tracking σ) (index : Nat) (poller : Poller)
    (token : Option String) (failure : Option Failure) : Tracking σ :=
  let (answer, state) :=
    match failure with
    | some failure => (.error failure, tracking.backend)
    | none => backend.fetchProofJobs poller.run token tracking.backend
  let tracking := { tracking with backend := state }
  match Outcome.ofAnswer answer with
  | .error failure => tracking.finish index (some failure)
  | .ok outcome => (tracking.onTracker (report · poller outcome)).rest index poller

/-- The token that a fetch is made under. -/
def loadToken (store : Option SessionStore) : Noted (Except Fault (Option String)) :=
  match store with
  | none => { value := .ok none }
  | some store =>
    let loaded := store.load
    { value := loaded.value.map (·.map (·.accessToken)), remarks := loaded.remarks }

/-- A fetch begins, and without latency its answer arrives at once. -/
def fetch (backend : Backend σ) (tracking : Tracking σ) (index : Nat) (poller : Poller)
    (token : Option String) : Tracking σ :=
  let (latency, failure, pacing) := tracking.pacing.next
  let begun := { tracking.onTracker (·.see (.fetch poller.run token)) with pacing }
  if latency ≤ 0 then begun.receive backend index poller token failure
  else
    begun.suspend index (.fetching token failure (begun.tracker.agenda.now + latency)) latency

/-- A polling task polls, as long as its generation is current. -/
def poll (backend : Backend σ) (store : Option SessionStore) (tracking : Tracking σ) (index : Nat)
    (poller : Poller) : Tracking σ :=
  let board := tracking.tracker.board
  if !board.isCurrent poller.generation then tracking.finish index none
  else
    let loading := tracking.onTracker (·.publish poller.generation board.view.whileLoading)
    let loaded := loadToken store
    let loading :=
      loading.onTracker fun tracker => { tracker with remarks := tracker.remarks ++ loaded.remarks }
    match loaded.value with
    | .error fault => loading.finish index (some (.fault fault))
    | .ok token => loading.fetch backend index poller token

/-- A polling task has its turn. -/
def wakePoller (backend : Backend σ) (store : Option SessionStore) (tracking : Tracking σ)
    (index : Nat) (poller : Poller) : Tracking σ :=
  match poller.phase with
  | .ended _ => tracking
  | .scheduled =>
    if poller.cancelled then tracking.finish index none
    else
      let poller := { poller with nextAt := tracking.tracker.agenda.now }
      (tracking.onTracker (·.modifyPoller index fun _ => poller)).poll backend store index poller
  | .fetching token failure due =>
    if poller.cancelled && !tracking.pacing.shielded then tracking.finish index none
    else if poller.cancelled && tracking.tracker.agenda.now < due then
      let poller := { poller with cancelled := false }
      (tracking.onTracker (·.modifyPoller index fun _ => poller)).onAgenda
        (·.setAlarm due (.poller index))
    else tracking.receive backend index poller token failure
  | .resting =>
    if poller.cancelled then tracking.finish index none
    else tracking.poll backend store index poller

/-- What a listener is told of a task that has ended. -/
def verdict (tracking : Tracking σ) (failure : Option Failure) : Except Failure View :=
  match failure with
  | some failure => .error failure
  | none => .ok tracking.tracker.board.view

/-- A listener looks at the task of a number. -/
def lookAt (tracking : Tracking σ) (index : Nat) : Listener :=
  match tracking.tracker.pollers[index]? with
  | none => .told (tracking.verdict none)
  | some poller =>
    match poller.phase with
    | .ended failure => .told (tracking.verdict failure)
    | _ => .watching index

/-- A listener looks for the task at hand. -/
def lookForHandle (tracking : Tracking σ) : Listener :=
  match tracking.tracker.handle with
  | none => .told (tracking.verdict none)
  | some index => tracking.lookAt index

/-- The listener has its turn. -/
def wakeListener (tracking : Tracking σ) : Tracking σ :=
  match tracking.listener with
  | some .scheduled => { tracking with listener := some tracking.lookForHandle }
  | some (.watching index) => { tracking with listener := some (tracking.lookAt index) }
  | _ => tracking

/-- Someone has the turn. -/
def wake (backend : Backend σ) (store : Option SessionStore) (tracking : Tracking σ)
    (waker : Waker) : Tracking σ :=
  match waker with
  | .poller index =>
    match tracking.tracker.pollers[index]? with
    | some poller => tracking.wakePoller backend store index poller
    | none => tracking
  | .listener => tracking.wakeListener
  | .caller => tracking

/-- The next turn by a limit in time, and who has it. -/
def turn? (backend : Backend σ) (store : Option SessionStore) (limit : Option Rat)
    (tracking : Tracking σ) : Option (Waker × Tracking σ) :=
  (tracking.tracker.agenda.next? limit).map fun (waker, agenda) =>
    (waker, (tracking.onAgenda fun _ => agenda).wake backend store waker)

/-- Turns are taken until a moment, if they suffice. -/
def runTo (backend : Backend σ) (store : Option SessionStore) (moment : Rat) :
    Nat → Tracking σ → Option (Tracking σ)
  | 0, _ => none
  | turns + 1, tracking =>
    match tracking.turn? backend store (some moment) with
    | some (_, tracking) => runTo backend store moment turns tracking
    | none => some (tracking.onAgenda fun agenda => { agenda with now := moment })

/-- Turns are taken until someone has had one, if they suffice. -/
def runUntil (backend : Backend σ) (store : Option SessionStore) (target : Waker) :
    Nat → Tracking σ → Option (Tracking σ)
  | 0, _ => none
  | turns + 1, tracking =>
    match tracking.turn? backend store none with
    | some (waker, tracking) =>
      if waker = target then some tracking else runUntil backend store target turns tracking
    | none => none

/-- Time moves on by some seconds. -/
def advance (backend : Backend σ) (store : Option SessionStore) (turns : Nat) (seconds : Rat)
    (tracking : Tracking σ) : Option (Tracking σ) :=
  tracking.runTo backend store (tracking.tracker.agenda.now + seconds) turns

/-- The listener leaves with what it was told. -/
def dismiss (tracking : Tracking σ) : Option (Except Failure View × Tracking σ) :=
  match tracking.listener with
  | some (.told result) => some (result, { tracking with listener := none })
  | _ => none

/-- The caller waits until the task at hand has ended, and is told the last view. -/
def wait (backend : Backend σ) (store : Option SessionStore) (turns : Nat)
    (tracking : Tracking σ) : Option (Except Failure View × Tracking σ) :=
  let listening := { tracking with listener := some tracking.lookForHandle }
  match listening.listener with
  | some (.watching _) => (listening.runUntil backend store .listener turns).bind dismiss
  | _ => listening.dismiss

/-- The listener was told how the task ended. -/
def isTold (tracking : Tracking σ) : Bool :=
  match tracking.listener with
  | some (.told _) => true
  | _ => false

/-- Polling tasks take so many turns at most, until the listener is told or an update is refused. -/
def watchFor (backend : Backend σ) (store : Option SessionStore) (accepts : View → Bool) :
    Nat → Tracking σ → Tracking σ
  | turns, tracking =>
    if tracking.isTold || !tracking.tracker.updates.all accepts then tracking
    else
      match tracking.turn? backend store none with
      | none => tracking
      | some (.poller _, next) =>
        match turns with
        | 0 => tracking
        | turns + 1 => watchFor backend store accepts turns next
      | some (_, next) => next

/-- The caller watches the updates until the task at hand has ended. -/
def watch (backend : Backend σ) (store : Option SessionStore) (accepts : View → Bool) (turns : Nat)
    (tracking : Tracking σ) : Tracking σ :=
  { tracking with listener := some tracking.lookForHandle }.watchFor backend store accepts turns

/-- The caller waits for the listener, unless it was told already. -/
def joinListener (backend : Backend σ) (store : Option SessionStore) (turns : Nat)
    (tracking : Tracking σ) : Option (Tracking σ) :=
  match tracking.listener with
  | some (.told _) => some tracking
  | _ => do
    let told ← tracking.runUntil backend store .listener turns
    (told.onAgenda (·.call .caller)).runUntil backend store .caller turns

/-- A listener waits for the task at hand while the tracking is cancelled after some seconds. -/
def waitCancel (backend : Backend σ) (store : Option SessionStore) (turns : Nat) (seconds : Rat)
    (tracking : Tracking σ) : Option (Except Failure View × Tracking σ) := do
  let listening := { tracking with listener := some .scheduled }.onAgenda (·.call .listener)
  let advanced ← listening.advance backend store turns seconds
  let told ← (advanced.onTracker (·.cancel)).joinListener backend store turns
  told.dismiss

/-- The caller fetches the proof jobs of a run itself, at the same pace as the polls. -/
def fetchDirectly (backend : Backend σ) (store : Option SessionStore) (turns : Nat) (run : String)
    (token : Option String) (tracking : Tracking σ) :
    Option (Except Failure ProofJobsByRun × Tracking σ) := do
  let (latency, failure, pacing) := tracking.pacing.next
  let begun := { tracking.onTracker (·.see (.fetch run token)) with pacing }
  let arrived ←
    if latency ≤ 0 then some begun
    else
      (begun.onAgenda (·.delay latency .caller)).runUntil backend store .caller turns
  match failure with
  | some failure => return (.error failure, arrived)
  | none =>
    let (answer, state) := backend.fetchProofJobs run token arrived.backend
    return (answer, { arrived with backend := state })

end Tracking

end OtcDesk
