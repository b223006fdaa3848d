import Televisor.Run.Background

namespace Televisor.Run

open Media Rendering Telemetry

/-! Telemetry sessions as they are begun, used and ended.  Whatever waits for an answer lets time
pass. -/

def notListening : Failure :=
  .io "notify server is not running"

inductive Start where
  | session
  /-- The renderer cannot be reached now. -/
  | unreachable
  | failed (failure : Failure)
deriving Repr, DecidableEq

namespace State

def exchange (state : State) (request : Network.Request) : State × Network.Answer :=
  let (state, exchange) := state.send request
  (state.passTo exchange.due, exchange.answer)

def wait (state : State) (duration : Nat) : State :=
  state.passTo (state.now + duration)

/-- Finds the address that events can come to, sets up a receiver there and waits until it
listens. -/
def startReceiver (state : State) : State × Except Failure Nat :=
  let (state, number) := (state.wait state.delays.route).addReceiver
  let state := state.call .startReceiver
  let host := state.host
  let state := state.wait host.startDelay
  if host.startFails then (state, .error (.io "cannot bind"))
  else
    let state := state.updateReceiver number Receiver.listen
    (state.note (.listening number), .ok number)

def stopReceiver (state : State) (number : Nat) : State :=
  let state := (state.call .stopReceiver).wait state.delays.stop
  let state := state.updateReceiver number Receiver.stop
  state.note (.stopped number)

/-- Asks for events to be sent and waits for the answer; `renewing` tells whether the subscription
is to be renewed. -/
def askForEvents (state : State) (control : Control) (renewing : Bool) :
    State × Except Failure Grant :=
  let state := state.call (.subscribe renewing)
  match control.callback with
  | none => (state, .error notListening)
  | some callback =>
    let url := control.device.eventUrl
    let (state, answer) := state.exchange (subscribe url callback)
    (state.note (.answered (.caller renewing) answer), readGrant url answer)

/-- The session that is being set up is there, granted or rejected. -/
def adopt (state : State) (finish : Session → Session) : State :=
  { state with held := state.draft.map finish, draft := none }

/-- Gives up the session that is being set up: its handler goes first, then its handle, then its
receiver. -/
def abandon (state : State) (number : Nat) : State :=
  { state.call .detach with draft := none }.stopReceiver number

def setUp (state : State) (device : Device) (number : Nat) : State × Start :=
  let callback := (state.receivers[number]?).bind Receiver.callback?
  let session := Session.fresh (Control.ofDevice device callback) number
  let state := (state.updateReceiver number Receiver.consume).call .attach
  let (state, outcome) := { state with draft := some session }.askForEvents session.control true
  match outcome with
  | .ok grant =>
    (state.adopt fun session =>
      { session with control := session.control.granted grant state.now, status := .subscribed },
      .session)
  | .error failure =>
    if failure.isRejection then
      (state.adopt fun session => { session with status := .rejected }, .session)
    else (state.abandon number, .failed failure)

/-- Begins a session with the renderer that is described at a location.  Either there is a session
in the end, or all that was set up for it is gone. -/
def startSession (state : State) (location : String) : State × Start :=
  let (state, answer) := (state.note (.starting location)).exchange (fetch location)
  match readDevice location answer with
  | .error failure => (state, if failure.isConnection then .unreachable else .failed failure)
  | .ok device =>
    match state.startReceiver with
    | (state, .error failure) => (state, .failed failure)
    | (state, .ok number) => state.setUp device number

def updateControl (state : State) (change : Control → Control) : State :=
  { state with
    held := state.held.map fun session => { session with control := change session.control } }

/-- Subscribes the session in use anew; without renewing, a renewal that goes on is left alone. -/
def subscribeHeld (state : State) (renewing : Bool) : State × Except Failure Unit :=
  match state.held with
  | none => (state, .ok ())
  | some session =>
    let (state, outcome) := state.askForEvents session.control renewing
    match outcome with
    | .error failure => (state, .error failure)
    | .ok grant =>
      (state.updateControl fun control =>
        if renewing then control.granted grant state.now
        else { control with sid := some grant.sid },
        .ok ())

/-- Ends the subscription of the session in use; it is forgotten even if that fails. -/
def unsubscribeHeld (state : State) : State × Except Failure Unit :=
  match state.held with
  | none => (state, .ok ())
  | some session =>
    let state := (state.call .unsubscribe).updateControl Control.forget
    match session.control.sid with
    | none => (state, .ok ())
    | some sid =>
      let url := session.control.device.eventUrl
      let (state, answer) := state.exchange (unsubscribe url sid)
      (state, readEnd url answer)

/-- Ends the session in use, which then only remembers what it last knew. -/
def stopSession (state : State) : State :=
  match state.held.filter (·.alive) with
  | none => state
  | some session =>
    let state := (state.call .detach).hold
      { session with
        control := { session.control with attached := false },
        status := .unsubscribed, alive := false }
    let state := if session.status = .subscribed then state.unsubscribeHeld.1 else state
    (state.updateControl Control.stopRenewal).stopReceiver session.receiver

def changeVolume (state : State) (device : Device) (level : Level) : State × Except Failure Unit :=
  let (state, answer) := (state.call (.setVolume level)).exchange (setVolume device level)
  (state, readAction device.controlUrl answer)

/-- Asks the renderer of the session in use; a session that has been ended asks nobody. -/
def changeHeldVolume (state : State) (level : Level) : State × Except Failure Unit :=
  match state.held.filter (·.alive) with
  | none => (state, .ok ())
  | some session => state.changeVolume session.control.device level

end State

end Televisor.Run
