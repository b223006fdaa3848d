import Televisor.Run.Session

namespace Televisor.Run

open Controller Discovery Media Rendering

/-! What the controller does at a poll, when an event is handled, and when it shuts down. -/

/-- What keeps a poll from asking the television anything, as it was when the poll began. -/
structure Guards where
  authFailed : Bool
  shuttingDown : Bool
deriving Repr, DecidableEq

def Guards.hold (guards : Guards) : Bool :=
  guards.authFailed || guards.shuttingDown

/-- A television that does not answer counts as off. -/
def powerOf : Except Remote.Failure Bool → Power
  | .ok true => .on
  | .ok false => .off
  | .error _ => .off

theorem powerOf_eq_on {answer : Except Remote.Failure Bool} :
    powerOf answer = .on ↔ answer = .ok true := by
  cases answer with
  | error failure => simp [powerOf]
  | ok isOn => cases isOn <;> simp [powerOf]

namespace State

def guards (state : State) : Guards :=
  ⟨state.controller.authFailed, state.controller.shuttingDown⟩

def setPower (state : State) (power : Power) : State :=
  { state with controller := { state.controller with power := power } }

def queryPower (state : State) : State × Except Remote.Failure Bool :=
  let state := state.call .isOn
  let television := state.television
  let state := state.wait television.onDelay
  (if television.refusesOnQuery then state.refuse else state, television.on)

def clearWindow (state : State) : State :=
  let controller := state.controller
  { state with
    controller := { controller with window := controller.window.clearIfExpired state.now } }

/-- Finds out the power state: as before while a guard holds, off while the power-off window is
open, and otherwise what the television answers. -/
def reconcile (state : State) (guards : Guards) : State :=
  if guards.hold then state
  else if state.controller.isPoweringOff state.now then state.setPower .off
  else
    let (state, answer) := state.queryPower
    (state.setPower (powerOf answer)).clearWindow

def promiseApps (state : State) : State :=
  match state.television.apps with
  | none => state
  | some apps =>
    if state.television.appsDelay = 0 then state.deliver apps
    else
      let due := state.now + state.television.appsDelay
      { state with arrivals := insertArrival ⟨due, .apps apps⟩ state.arrivals }

/-- Asks for the list of applications, unless waiting for it is over; whether the request fails
makes no difference. -/
def beginDiscovery (state : State) : State :=
  if state.gate.isResolved then state
  else
    let state := (state.call .requestAppList).promiseApps
    { state with
      discovery := some (.requesting (state.now + state.television.appListDelay)) }

def discover (state : State) : State :=
  state.beginDiscovery.awaitDiscovery

def startTelemetry (state : State) : State :=
  match state.held, state.controller.options.location with
  | none, some location => (state.startSession location).1
  | _, _ => state

def refresh (state : State) : State :=
  { state with controller := state.controller.refresh state.held }

/-- Discovery and the beginning of a session go on side by side. -/
def whileOn (state : State) : State :=
  (state.beginDiscovery.startTelemetry.awaitDiscovery).refresh

def tick (state : State) : State :=
  let guards := state.guards
  let state := state.reconcile guards
  if guards.hold then state.publish
  else if state.controller.power = .on then state.whileOn.publish
  else state.publish

def handleEvent (state : State) : Event → State
  | .reauthRequired => state.publish
  | .telemetryChanged => state.refresh.publish
  | .appsChanged => state.publish

def pump (state : State) : State :=
  state.queue.foldl handleEvent { state with queue := [] }

/-- Stops for good: a session that is held is ended, and nothing begins anew. -/
def shutdown (state : State) : State :=
  if state.controller.shuttingDown then state
  else
    let state := { state with controller := { state.controller with shuttingDown := true } }
    { state.stopSession with held := none }

end State

end Televisor.Run
