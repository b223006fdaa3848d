import Televisor.Discovery.Gate
import Televisor.Media.Level
import Televisor.Network.Http
import Televisor.Remote.Line
import Televisor.Rendering.Inbox
import Televisor.Wake.Mac

namespace Televisor.Run

open Discovery Media Rendering

/-! What surrounds the controller: a television, a host and a network that answer as they are told.
Times are milliseconds. -/

structure Television where
  /-- Whether it is on, or why it does not say so. -/
  on : Except Remote.Failure Bool
  onDelay : Nat
  /-- It refuses this client while it is asked whether it is on. -/
  refusesOnQuery : Bool
  powerOff : Option Remote.Failure
  powerOffDelay : Nat
  sendKeys : Option Remote.Failure
  hasLauncher : Bool
  launch : Option Remote.Failure
  appList : Option Remote.Failure
  appListDelay : Nat
  /-- The list it delivers once it has been asked for one. -/
  apps : Option Apps
  appsDelay : Nat

/-- How the host answers when an event receiver is set up. -/
structure Host where
  /-- The address that routes towards the renderer. -/
  localAddress : Option Url.Address
  startFails : Bool
  startDelay : Nat
  noCallback : Bool
  /-- The port that the receiver is bound to. -/
  port : Nat
  /-- The path of its inbox. -/
  path : String
deriving Repr, DecidableEq

/-- A host that knows no route, and sets a receiver up at once. -/
def Host.unrouted (port : Nat) (path : String) : Host :=
  ⟨none, false, 0, false, port, path⟩

/-- How long the surroundings take for what has no time of its own. -/
structure Delays where
  /-- Until the television or a program has taken a command. -/
  action : Nat
  /-- Until the address that routes towards the renderer is known. -/
  route : Nat
  /-- Until a receiver that is stopped has come to its end. -/
  stop : Nat
deriving Repr, DecidableEq

def Delays.none : Delays := ⟨0, 0, 0⟩

inductive Happening where
  | apps (apps : Apps)
  | body (receiver : Nat) (body : String)
  /-- Something is sent to the inbox of a receiver. -/
  | delivery (receiver : Nat) (delivery : Delivery)
  | refusal
deriving Repr, DecidableEq

structure Arrival where
  due : Nat
  what : Happening
deriving Repr, DecidableEq

/-- Puts an arrival behind all that are due no later. -/
def insertArrival (arrival : Arrival) : List Arrival → List Arrival
  | [] => [arrival]
  | first :: rest =>
    if first.due ≤ arrival.due then first :: insertArrival arrival rest
    else arrival :: first :: rest

inductive Call where
  | http (request : Network.Request)
  | isOn
  | powerOff
  | sendKeys (keys : List String)
  | requestAppList
  | launchApp (id : String)
  | receiver (source : String)
  | startReceiver
  | stopReceiver
  | attach
  | detach
  | subscribe (renewing : Bool)
  | unsubscribe
  | setVolume (level : Level)
  | runProgram (arguments : List String)
  | wake (mac : Wake.MacAddress)
deriving Repr, DecidableEq

/-- An inbox of ours, and the host as it was when the inbox was set up. -/
structure Receiver where
  inbox : Inbox
  address : Url.Address
  host : Host
deriving Repr, DecidableEq

/-- The address any interface answers to; it is used when none is known. -/
def unspecified : Url.Address := .v4 0

namespace Receiver

def new (host : Host) : Receiver :=
  ⟨.new host.path, host.localAddress.getD unspecified, host⟩

/-- Whether it can be reached. -/
def listening (receiver : Receiver) : Bool :=
  receiver.inbox.listening

/-- Whether a handle takes what arrives. -/
def consumed (receiver : Receiver) : Bool :=
  receiver.inbox.consumed

/-- Any port will do. -/
def source (receiver : Receiver) : String :=
  receiver.address.withPort 0

def listen (receiver : Receiver) : Receiver :=
  { receiver with inbox := receiver.inbox.start receiver.address receiver.host.port }

def consume (receiver : Receiver) : Receiver :=
  { receiver with inbox := receiver.inbox.consume }

def stop (receiver : Receiver) : Receiver :=
  { receiver with inbox := receiver.inbox.stop }

/-- The URL a renderer is told to send events to. -/
def callback? (receiver : Receiver) : Option String :=
  if receiver.host.noCallback then none else receiver.inbox.callback?

variable (receiver : Receiver)

@[simp] theorem new_listening (host : Host) : (new host).listening = false := rfl

@[simp] theorem new_consumed (host : Host) : (new host).consumed = false := rfl

@[simp] theorem listen_listening : receiver.listen.listening = true := by
  simp [listen, listening, Inbox.start, Inbox.listening]

@[simp] theorem listen_consumed : receiver.listen.consumed = receiver.consumed := rfl

@[simp] theorem consume_listening : receiver.consume.listening = receiver.listening := rfl

@[simp] theorem consume_consumed : receiver.consume.consumed = true := rfl

@[simp] theorem stop_listening : receiver.stop.listening = false := rfl

@[simp] theorem stop_consumed : receiver.stop.consumed = false := rfl

end Receiver

end Televisor.Run
