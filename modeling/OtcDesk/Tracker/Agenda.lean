namespace OtcDesk

/-- Who is to go on: a polling task, the listener that waits for its end, or the caller. -/
inductive Waker where
  | poller (index : Nat)
  | listener
  | caller
  deriving DecidableEq, Repr

/-- An alarm rings at its moment. -/
structure Alarm where
  due : Rat
  waker : Waker
  deriving DecidableEq, Repr

/-- The time, who is ready, and the alarms in the order in which they were set. -/
structure Agenda where
  now : Rat := 0
  ready : List Waker := []
  alarms : List Alarm := []
  deriving DecidableEq, Repr

namespace Agenda

/-- Someone becomes ready. -/
def call (agenda : Agenda) (waker : Waker) : Agenda :=
  { agenda with ready := agenda.ready ++ [waker] }

/-- An alarm is set. -/
def setAlarm (agenda : Agenda) (due : Rat) (waker : Waker) : Agenda :=
  { agenda with alarms := agenda.alarms ++ [⟨due, waker⟩] }

/-- Someone goes on after a delay; without one, as soon as the turn comes. -/
def delay (agenda : Agenda) (seconds : Rat) (waker : Waker) : Agenda :=
  if seconds ≤ 0 then agenda.call waker else agenda.setAlarm (agenda.now + seconds) waker

/-- Someone who waits for an alarm becomes ready without it. -/
def rouse (agenda : Agenda) (waker : Waker) : Agenda :=
  if agenda.alarms.any (·.waker == waker) then
    { agenda.call waker with alarms := agenda.alarms.filter (·.waker != waker) }
  else agenda

/-- The moment of the next alarm. -/
def nextDue? (agenda : Agenda) : Option Rat :=
  match agenda.alarms with
  | [] => none
  | first :: later =>
    some (later.foldl (fun due alarm => if alarm.due < due then alarm.due else due) first.due)

/-- Time moves to a moment, and the alarms due by then ring. -/
def moveTo (agenda : Agenda) (moment : Rat) : Agenda :=
  let (ringing, quiet) := agenda.alarms.partition (·.due ≤ moment)
  { now := moment, ready := agenda.ready ++ ringing.map (·.waker), alarms := quiet }

/-- A moment lies within a limit, if there is one. -/
def isWithin (limit : Option Rat) (moment : Rat) : Bool := limit.all (moment ≤ ·)

/-- Who goes on next, by a limit in time if there is one. -/
def next? (agenda : Agenda) (limit : Option Rat) : Option (Waker × Agenda) :=
  match agenda.ready with
  | waker :: rest => some (waker, { agenda with ready := rest })
  | [] =>
    match agenda.nextDue? with
    | none => none
    | some moment =>
      if isWithin limit moment then
        let agenda := agenda.moveTo moment
        match agenda.ready with
        | waker :: rest => some (waker, { agenda with ready := rest })
        | [] => none
      else none

end Agenda

end OtcDesk
