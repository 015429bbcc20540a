import OtcDesk.Desk
import OtcDesk.Proofs.Backend.Requests
import OtcDesk.Proofs.Login.Interleaving
import OtcDesk.Proofs.Tracker.Frame

namespace OtcDesk

/-- What happens at a desk, where a submission is one event as its answer changes nothing shared. -/
inductive DeskEvent where
  | login (event : LoginEvent)
  | submit (clock : Clock) (left right : DealerIntent)
  | start (run : String)
  | track (result : OrchestrationResult)
  | cancel
  /-- The polling task of a number has its turn. -/
  | turn (index : Nat)
  /-- Time passes, and those who wait for something may have been called. -/
  | elapse (agenda : Agenda) (pacing : Pacing) (listener : Option Listener)

/-- A remote desk, the calls ever begun on its login, and the requests handed over. -/
structure DeskTraffic where
  desk : Desk Remote
  calls : List CallStage := []
  sent : List Request := []

namespace DeskTraffic

/-- The remote backend of the desk. -/
def remote (traffic : DeskTraffic) : Remote := traffic.desk.tracking.backend

/-- The calls on the login of the desk. -/
def onLogin (traffic : DeskTraffic) : LoginTraffic Remote where
  login := traffic.desk.login
  state := traffic.remote
  calls := traffic.calls

/-- The desk and the calls after an event. -/
def perform (traffic : DeskTraffic) : DeskEvent → DeskTraffic
  | .login event =>
    let after := traffic.onLogin.step Remote.backend event
    { traffic with
      desk := { traffic.desk.withBackend after.state with login := after.login }
      calls := after.calls }
  | .submit clock left right =>
    let (_, desk) := Desk.submit (fun _ => Remote.backend) left right { traffic.desk with clock }
    { traffic with desk }
  | .start run => { traffic with desk := traffic.desk.start run }
  | .track result => { traffic with desk := (traffic.desk.track result).2 }
  | .cancel => { traffic with desk := traffic.desk.cancel }
  | .turn index =>
    let tracking := traffic.desk.tracking.wake Remote.backend traffic.desk.trackerStore
      (.poller index)
    { traffic with desk := { traffic.desk with tracking } }
  | .elapse agenda pacing listener =>
    let tracking := { traffic.desk.tracking with pacing, listener }.onAgenda fun _ => agenda
    { traffic with desk := { traffic.desk with tracking } }

/-- The requests that an event hands over, where that of a fetch goes out when the fetch begins. -/
def handed (traffic : DeskTraffic) (event : DeskEvent) : List Request :=
  let after := traffic.perform event
  match event with
  | .turn _ =>
    let begun := after.desk.tracking.tracker.fetches.drop
      traffic.desk.tracking.tracker.fetches.length
    begun.map fun fetch => traffic.remote.jobsRequest fetch.1 fetch.2
  | _ => after.remote.requests.drop traffic.remote.requests.length

/-- The traffic after an event. -/
def step (traffic : DeskTraffic) (event : DeskEvent) : DeskTraffic :=
  { traffic.perform event with sent := traffic.sent ++ traffic.handed event }

/-- The traffic after some events, one after another. -/
def after (traffic : DeskTraffic) (events : List DeskEvent) : DeskTraffic :=
  events.foldl step traffic

theorem after_append (traffic : DeskTraffic) (earlier later : List DeskEvent) :
    traffic.after (earlier ++ later) = (traffic.after earlier).after later :=
  List.foldl_append

/-- Events on the login do to the desk what they do to the login and its backend. -/
theorem after_login (events : List LoginEvent) :
    ∀ traffic : DeskTraffic, (traffic.after (events.map .login)).desk =
      { traffic.desk.withBackend (traffic.onLogin.after Remote.backend events).state with
        login := (traffic.onLogin.after Remote.backend events).login } := by
  induction events with
  | nil => exact fun _ => rfl
  | cons event later ih => exact fun traffic => ih (traffic.step (.login event))

/-- A verification at the desk is a run of events. -/
theorem after_verify {ρ : Type} (traffic : DeskTraffic) (signer : Signer ρ)
    (address : Option String) (wallet : ρ) :
    let goesOn := LoginEvent.goOn traffic.calls.length fun message => (signer message wallet).1
    (traffic.after ([.verify address, goesOn, goesOn, goesOn].map .login)).desk =
      (Desk.verify (fun _ => Remote.backend) signer address (traffic.desk, wallet)).2.1 := by
  intro goesOn
  have ended := traffic.onLogin.after_verify Remote.backend signer address wallet
  rw [after_login]
  exact congrArg (fun reached : LoginTraffic Remote =>
    { traffic.desk.withBackend reached.state with login := reached.login }) ended

/-- A restoration at the desk is a run of events. -/
theorem after_restore (traffic : DeskTraffic) (wallet : String → Except Failure Json) :
    (traffic.after ([.restore traffic.desk.clock, .goOn traffic.calls.length wallet].map
        .login)).desk = (Desk.restore (fun _ => Remote.backend) traffic.desk).2 := by
  have ended := traffic.onLogin.after_restore Remote.backend traffic.desk.clock wallet
  rw [after_login]
  exact congrArg (fun reached : LoginTraffic Remote =>
    { traffic.desk.withBackend reached.state with login := reached.login }) ended

/-- A listener that has its turn changes nothing but what it has seen. -/
theorem wakeListener_eq {σ : Type} (tracking : Tracking σ) :
    tracking.wakeListener = { tracking with listener := tracking.wakeListener.listener } := by
  unfold Tracking.wakeListener
  split <;> rfl

/-- A turn that is due is a run of events. -/
theorem after_turn {traffic : DeskTraffic} {limit : Option Rat} {waker : Waker}
    {tracking : Tracking Remote}
    (due : traffic.desk.tracking.turn? Remote.backend traffic.desk.trackerStore limit =
      some (waker, tracking)) :
    ∃ events, (traffic.after events).desk = { traffic.desk with tracking } := by
  obtain ⟨⟨next, agenda⟩, _, same⟩ := Option.map_eq_some_iff.mp due
  obtain ⟨rfl, rfl⟩ := Prod.mk.inj same
  let before := traffic.desk.tracking
  cases next with
  | poller index => exact ⟨[.elapse agenda before.pacing before.listener, .turn index], rfl⟩
  | listener =>
      let heard := (before.onAgenda fun _ => agenda).wakeListener
      refine ⟨[.elapse agenda before.pacing heard.listener], ?_⟩
      have woken : heard = _ := wakeListener_eq _
      exact congrArg (fun tracking : Tracking Remote => { traffic.desk with tracking }) woken.symm
  | caller => exact ⟨[.elapse agenda before.pacing before.listener], rfl⟩

/-- The turns until a moment are a run of events. -/
theorem after_runTo (moment : Rat) (turns : Nat) :
    ∀ (traffic : DeskTraffic) (tracking : Tracking Remote),
      traffic.desk.tracking.runTo Remote.backend traffic.desk.trackerStore moment turns =
        some tracking →
      ∃ events, (traffic.after events).desk = { traffic.desk with tracking } := by
  induction turns with
  | zero =>
      intro traffic tracking ran
      cases ran
  | succ turns ih =>
      intro traffic tracking ran
      rw [Tracking.runTo] at ran
      split at ran
      · rename_i waker next due
        obtain ⟨first, reached⟩ := after_turn due
        obtain ⟨later, ends⟩ := ih (traffic.after first) tracking (by rw [reached]; exact ran)
        refine ⟨first ++ later, ?_⟩
        rw [after_append, ends, reached]
      · obtain rfl := Option.some.inj ran
        exact ⟨[.elapse _ traffic.desk.tracking.pacing traffic.desk.tracking.listener], rfl⟩

/-- Time that moves on is a run of events. -/
theorem after_advance {traffic : DeskTraffic} {turns : Nat} {seconds : Rat} {desk : Desk Remote}
    (advanced : traffic.desk.advance (fun _ => Remote.backend) turns seconds = some desk) :
    ∃ events, (traffic.after events).desk = desk := by
  obtain ⟨tracking, ran, rfl⟩ := Option.map_eq_some_iff.mp advanced
  exact after_runTo _ turns traffic tracking ran

/-- What the desk does in one go is a run of events. -/
structure Covers (traffic : DeskTraffic) : Prop where
  verify {ρ : Type} (signer : Signer ρ) (address : Option String) (wallet : ρ) :
    ∃ events, (traffic.after events).desk =
      (Desk.verify (fun _ => Remote.backend) signer address (traffic.desk, wallet)).2.1
  restore : ∃ events, (traffic.after events).desk =
    (Desk.restore (fun _ => Remote.backend) traffic.desk).2
  advance (turns : Nat) (seconds : Rat) (desk : Desk Remote)
    (advanced : traffic.desk.advance (fun _ => Remote.backend) turns seconds = some desk) :
    ∃ events, (traffic.after events).desk = desk

theorem covers (traffic : DeskTraffic) : traffic.Covers where
  verify signer address wallet := ⟨_, traffic.after_verify signer address wallet⟩
  restore := ⟨_, traffic.after_restore fun _ => .error .interrupted⟩
  advance _ _ _ advanced := after_advance advanced

end DeskTraffic

end OtcDesk
