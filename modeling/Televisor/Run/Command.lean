import Televisor.Controller.Decision
import Televisor.Host.Programs
import Televisor.Run.Session

namespace Televisor.Run

open Controller

/-! Commands as they are carried out. -/

def outcomeOf : Option Remote.Failure → Except Failure Unit
  | none => .ok ()
  | some failure => .error (.remote failure)

/-- A renderer that refuses to change its volume is not held against the command. -/
def volumeOutcome : Except Rendering.Failure Unit → Except Failure Unit
  | .ok () => .ok ()
  | .error (.actionResponse ..) => .ok ()
  | .error failure => .error (.rendering failure)

namespace State

def powerOff (state : State) : State × Except Failure Unit :=
  let state := state.call .powerOff
  let television := state.television
  (state.wait television.powerOffDelay, outcomeOf television.powerOff)

def demand (state : State) (call : Call) : State :=
  (state.call call).wait state.delays.action

def act (state : State) : Action → State × Except Failure Unit
  | .powerOff => state.powerOff
  | .sendKeys keys => (state.demand (.sendKeys keys), outcomeOf state.television.sendKeys)
  | .launchApp id => (state.demand (.launchApp id), outcomeOf state.television.launch)
  | .setVolume level =>
    let (state, outcome) := state.changeHeldVolume level
    (state, volumeOutcome outcome)
  | .runProgram arguments =>
    (state.demand (.runProgram arguments), (Host.runCommand arguments).mapError .wake)
  | .wake mac =>
    let host := state.controller.options.host
    (state.demand (.wake mac), (Wake.wake state.network mac host).2.mapError .wake)

def circumstances (state : State) : Circumstances where
  now := state.now
  gate := state.gate
  hasLauncher := state.television.hasLauncher
  sessionAlive := state.held.any (·.alive)

/-- Carries out a command; what it changes in the controller shows before anything is done. -/
def execute (state : State) (command : Command) : State × Except Failure Unit :=
  let decision := decide state.controller state.circumstances command
  let state := state.setController (prepare state.controller state.gate state.now command)
  match decision with
  | .refuse failure => (state, .error failure)
  | .hold => (state, .ok ())
  | .act action => state.act action

end State

end Televisor.Run
