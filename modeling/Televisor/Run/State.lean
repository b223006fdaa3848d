import Televisor.Api.WebSocket
import Televisor.Controller.State
import Televisor.Run.Surroundings
import Televisor.Wake.OnLan

namespace Televisor.Run

open Controller Discovery Media Network Telemetry

/-! A controller in its surroundings, and what has been seen of both. -/

/-- Who asked a renderer for its events. -/
inductive Asker where
  /-- Somebody who subscribes; the flag tells whether the subscription is to be renewed. -/
  | caller (renewing : Bool)
  /-- The renewal, for a subscription to go on. -/
  | renewal
  /-- The renewal, for a new subscription, as the old one would not go on. -/
  | fallback
deriving Repr, DecidableEq

inductive Occurrence where
  | called (call : Call)
  /-- What became of a subscription that was asked for. -/
  | answered (asker : Asker) (answer : Answer)
  | published (state : MediaState)
  | raised (event : Event)
  | sent (socket : Nat) (frame : Api.Frame)
  | delivered (apps : Apps)
  /-- A session with the renderer described there is about to be begun. -/
  | starting (location : String)
  | listening (receiver : Nat)
  | stopped (receiver : Nat)
  /-- An event body has come to a session, which is like this now. -/
  | took (body : String) (session : Session)
deriving Repr, DecidableEq

structure Record where
  time : Nat
  what : Occurrence
deriving Repr, DecidableEq

/-- `held` is the session in use and `draft` one that is still being set up; `queue` holds the events
that nobody has handled yet, and `trace` what was seen, the latest first. -/
structure State where
  now : Nat
  television : Television
  host : Host
  /-- Where wake packets are sent. -/
  network : Wake.Network
  replies : Replies
  delays : Delays
  /-- How long a request may take. -/
  patience : Option Nat
  arrivals : List Arrival
  receivers : List Receiver
  gate : Gate
  discovery : Option Phase
  held : Option Session
  draft : Option Session
  controller : Controller
  queue : List Event
  commandsOpen : Bool
  sockets : List Api.Feed
  trace : List Record

/-- How long the client for renderers waits for an answer. -/
def clientPatience : Nat := 10000

namespace State

def initial (options : Options) (television : Television) (host : Host) (replies : Replies)
    (patience : Option Nat) : State where
  now := 0
  television := television
  host := host
  network := Wake.nowhere
  replies := replies
  delays := .none
  patience := patience
  arrivals := []
  receivers := []
  gate := .unresolved
  discovery := none
  held := none
  draft := none
  controller := .new options
  queue := []
  commandsOpen := true
  sockets := []
  trace := []

def note (state : State) (what : Occurrence) : State :=
  { state with trace := ⟨state.now, what⟩ :: state.trace }

def call (state : State) (call : Call) : State :=
  state.note (.called call)

def raise (state : State) (event : Event) : State :=
  { state.note (.raised event) with queue := state.queue ++ [event] }

/-- Replaces the controller, and notes a state it has published anew. -/
def setController (state : State) (controller : Controller) : State :=
  if controller.version = state.controller.version then { state with controller := controller }
  else { state.note (.published controller.published) with controller := controller }

def publish (state : State) : State :=
  state.setController (state.controller.publish state.gate state.now)

/-- Sends a request, which takes the next reply to its method. -/
def send (state : State) (request : Request) : State × Exchange :=
  match request.built? with
  | none => (state, unbuilt state.now)
  | some request =>
    let (scripted, replies) := state.replies.next request.method
    ({ state.call (.http request) with replies := replies },
      scripted.exchange state.patience state.now)

theorem send_due_ge (state : State) (request : Request) :
    state.now ≤ (state.send request).2.due := by
  unfold send
  split
  · simp [unbuilt]
  · exact Scripted.exchange_due_ge _ _ _

def updateReceiver (state : State) (number : Nat) (change : Receiver → Receiver) : State :=
  { state with receivers := state.receivers.modify number change }

def addReceiver (state : State) : State × Nat :=
  let receiver := Receiver.new state.host
  ({ state.call (.receiver receiver.source) with receivers := state.receivers ++ [receiver] },
    state.receivers.length)

def refuse (state : State) : State :=
  { state with controller := { state.controller with authFailed := true } }.raise .reauthRequired

/-- The television delivers its list of applications; whoever waits for it has it. -/
def deliver (state : State) (apps : Apps) : State :=
  ({ state with
    gate := state.gate.deliver apps
    discovery := state.discovery.bind Phase.delivered? }.note (.delivered apps)).raise .appsChanged

/-- A session takes an event body, and reports a change. -/
def receiveBy (session : Session) (body : String) (put : Session → State) : State :=
  let (session, changed) := session.receive body
  let state := (put session).note (.took body session)
  if changed then state.raise .telemetryChanged else state

/-- An event body comes to a receiver; the handle that listens there takes it. -/
def receive (state : State) (number : Nat) (body : String) : State :=
  if (state.receivers[number]?).any (·.consumed) then
    match state.held.filter (·.receiver == number) with
    | some session => receiveBy session body fun session => { state with held := some session }
    | none =>
      match state.draft.filter (·.receiver == number) with
      | some session => receiveBy session body fun session => { state with draft := some session }
      | none => state
  else state

/-- What is sent to an inbox is read there. -/
def handIn (state : State) (number : Nat) (delivery : Rendering.Delivery) : State :=
  match (state.receivers[number]?).bind (·.inbox.accept? delivery) with
  | some body => state.receive number body
  | none => state

def happen (state : State) : Happening → State
  | .apps apps => state.deliver apps
  | .body number body => state.receive number body
  | .delivery number delivery => state.handIn number delivery
  | .refusal => state.refuse

/-- A delivery brings a body, or nothing. -/
@[elab_as_elim]
theorem happen_delivery {motive : State → Prop} (state : State) (number : Nat)
    (delivery : Rendering.Delivery) (unread : motive state)
    (read : ∀ body, motive (state.receive number body)) :
    motive (state.happen (.delivery number delivery)) := by
  simp only [happen, handIn]
  split
  · exact read _
  · exact unread

end State

end Televisor.Run
