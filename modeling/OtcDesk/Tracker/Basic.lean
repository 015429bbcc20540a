import OtcDesk.Record.Trade
import OtcDesk.Tracker.Agenda
import OtcDesk.Tracker.Board
import OtcDesk.Tracker.Outcome

namespace OtcDesk

/-- Where a polling task stands. -/
inductive PollerPhase where
  /-- It has not begun. -/
  | scheduled
  /-- It waits for an answer, which is due at a moment. -/
  | fetching (token : Option String) (failure : Option Failure) (due : Rat)
  /-- It rests until the next poll. -/
  | resting
  /-- It has ended, with a failure if one ended it. -/
  | ended (failure : Option Failure)
  deriving DecidableEq, Repr

/-- A polling task: its run, its generation, where it stands, and its next poll. -/
structure Poller where
  run : String
  generation : Nat
  phase : PollerPhase := .scheduled
  nextAt : Rat := 0
  cancelled : Bool := false
  deriving DecidableEq, Repr

/-- A polling task has ended. -/
def Poller.hasEnded (poller : Poller) : Bool :=
  match poller.phase with
  | .ended _ => true
  | _ => false

/-- What is done at an update. -/
inductive Order where
  | cancel
  | restart (run : String)
  deriving DecidableEq, Repr

/-- An order for the update of a number, counted from one. -/
structure StandingOrder where
  atUpdate : Nat
  order : Order
  deriving DecidableEq, Repr

/-- What is seen of a tracker: its updates, and the fetches that it begins. -/
inductive Sighting where
  | update (view : View)
  | fetch (run : String) (token : Option String)
  deriving DecidableEq, Repr

/-- A tracker, with all that was seen of it and the moments of it. -/
structure Tracker where
  interval : Rat
  board : Board := {}
  pollers : List Poller := []
  handle : Option Nat := none
  agenda : Agenda := {}
  orders : List StandingOrder := []
  sightings : List (Rat × Sighting) := []
  remarks : List Warning := []
  deriving DecidableEq, Repr

namespace Tracker

/-- Something is seen of the tracker. -/
def see (tracker : Tracker) (sighting : Sighting) : Tracker :=
  { tracker with sightings := tracker.sightings ++ [(tracker.agenda.now, sighting)] }

/-- The views that were published. -/
def updates (tracker : Tracker) : List View :=
  tracker.sightings.filterMap fun
    | (_, .update view) => some view
    | (_, .fetch ..) => none

/-- The polling task of a number is changed. -/
def modifyPoller (tracker : Tracker) (index : Nat) (change : Poller → Poller) : Tracker :=
  { tracker with pollers := tracker.pollers.modify index change }

/-- The polling task at hand, as long as it has not ended. -/
def active? (tracker : Tracker) : Option Nat :=
  tracker.handle.filter fun index => tracker.pollers[index]?.any (!·.hasEnded)

/-- A polling task is at work. -/
def running (tracker : Tracker) : Bool := tracker.active?.isSome

/-- A polling task is asked to stop, and learns of it when its turn comes. -/
def stop (tracker : Tracker) (index : Nat) : Tracker :=
  { tracker.modifyPoller index fun poller => { poller with cancelled := true } with
    agenda := tracker.agenda.rouse (.poller index) }

/-- The tracking ends, and the view stays as it is. -/
def cancel (tracker : Tracker) : Tracker :=
  let idle := { tracker with board := tracker.board.supersede, handle := none }
  match tracker.active? with
  | some index => idle.stop index
  | none => idle

/-- A polling task is started, and is the one at hand. -/
def spawn (tracker : Tracker) (run : String) (generation : Nat) : Tracker :=
  let index := tracker.pollers.length
  { tracker with
    pollers := tracker.pollers ++ [{ run, generation }]
    handle := some index
    agenda := tracker.agenda.call (.poller index) }

/-- The order for the latest update. -/
def order? (tracker : Tracker) : Option Order :=
  (tracker.orders.find? (·.atUpdate == tracker.updates.length)).map (·.order)

/-- The current generation publishes a view, and so many orders at most are carried out for it. -/
def publishWithin : Nat → Nat → View → Tracker → Tracker
  | rounds, generation, view, tracker =>
    match tracker.board.write? generation view with
    | none => tracker
    | some board =>
      let shown := { tracker with board }.see (.update view)
      match rounds, shown.order? with
      | _, none | 0, _ => shown
      | _ + 1, some .cancel => shown.cancel
      | rounds + 1, some (.restart run) =>
        -- the opening view is an update with an order of its own
        let cleared := shown.cancel
        let next := cleared.board.generation
        (publishWithin rounds next (.starting run) cleared).spawn run next

/-- A generation publishes a view, with no more rounds than there are orders. -/
def publish (tracker : Tracker) (generation : Nat) (view : View) : Tracker :=
  publishWithin tracker.orders.length generation view tracker

/-- The tracking of a run starts, in place of whatever was tracked. -/
def start (tracker : Tracker) (run : String) : Tracker :=
  let cleared := tracker.cancel
  let generation := cleared.board.generation
  (cleared.publish generation (.starting run)).spawn run generation

/-- A submitted trade is tracked if its proof is to be; otherwise the tracker goes idle. -/
def track (tracker : Tracker) (result : OrchestrationResult) : Bool × Tracker :=
  if result.shouldTrackProof then (true, tracker.start result.workflowRunId)
  else
    let cleared := tracker.cancel
    (false, cleared.publish cleared.board.generation .idle)

end Tracker

end OtcDesk
