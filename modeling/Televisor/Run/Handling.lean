import Televisor.Run.Session

namespace Televisor.Run

open Controller Network Rendering Telemetry

/-! A handle on a renderer by itself: calls are made one at a time, and time passes between them and
while they wait, for the renewal to go on. -/

inductive Handling where
  | subscribe (renewing : Bool)
  | unsubscribe
  | drop
  | pass (duration : Nat)
  /-- The renderer answers otherwise from now on. -/
  | answers (replies : Replies)

namespace State

/-- A handle that has not been used. -/
def handling (options : Options) (television : Television) (host : Host) (replies : Replies)
    (patience : Option Nat) (device : Device) (callback : Option String) : State :=
  { initial options television host replies patience with
    held := some (.fresh (.ofDevice device callback) 0) }

/-- Whoever drops the handle stops the task in its slot; nobody can call it afterwards. -/
def dropHeld (state : State) : State :=
  { state with
    held := state.held.map fun session =>
      { session with control := session.control.stopRenewal, alive := false } }

/-- A handle that has been dropped is not called. -/
def handle (state : State) : Handling → State
  | .subscribe renewing =>
    if state.held.any (·.alive) then (state.subscribeHeld renewing).1 else state
  | .unsubscribe => if state.held.any (·.alive) then state.unsubscribeHeld.1 else state
  | .drop => state.dropHeld
  | .pass duration => state.wait duration
  | .answers replies => { state with replies := replies }

/-- A call as long as it waits: it has been made, and what it has to send was sent. -/
def begun (state : State) (handling : Handling) : State :=
  match state.held.filter (·.alive) with
  | none => state
  | some session =>
    let url := session.control.device.eventUrl
    match handling with
    | .subscribe renewing =>
      let state := state.call (.subscribe renewing)
      match session.control.callback with
      | none => state
      | some callback => (state.send (subscribe url callback)).1
    | .unsubscribe =>
      let state := (state.call .unsubscribe).updateControl Control.forget
      match session.control.sid with
      | none => state
      | some sid => (state.send (unsubscribe url sid)).1
    | _ => state

def handles (state : State) (list : List Handling) : State :=
  list.foldl handle state

theorem handles_cons (state : State) (handling : Handling) (rest : List Handling) :
    state.handles (handling :: rest) = (state.handle handling).handles rest := rfl

end State

end Televisor.Run
