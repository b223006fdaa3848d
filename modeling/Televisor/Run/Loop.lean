import Televisor.Remote.Conversation
import Televisor.Run.Command
import Televisor.Run.Tick

namespace Televisor.Run

open Controller

/-! The program as it runs: polls, commands of clients, events and an interrupt take turns in any
order.  After the interrupt the controller is shut down, and then the API, which first waits for
every client that still waits for an answer. -/

inductive Stage where
  | serving
  | stopping
  /-- The API has been told to end, and is waited for. -/
  | draining
  | ended
deriving Repr, DecidableEq

structure Waiting where
  client : Nat
  command : Command
deriving Repr, DecidableEq

/-- What a client has been told of its command; none if the command was dropped. -/
structure Told where
  client : Nat
  outcome : Option (Except Failure Unit)
deriving Repr

/-- The number of commands that may lie in the queue; further clients wait for room. -/
def queueRoom : Nat := 16

structure Loop where
  stage : Stage
  state : State
  /-- Clients that have sent a command, in order; the commands of the first lie in the queue. -/
  waiting : List Waiting
  told : List Told

inductive Turn where
  | poll
  | post (waiting : Waiting)
  | serve
  | event
  | pass (duration : Nat)
  | interrupt
  | stop
  | finish

namespace Loop

def start (state : State) : Loop :=
  ⟨.serving, state, [], []⟩

def queued (loop : Loop) : List Waiting :=
  loop.waiting.take queueRoom

def readsQueue (loop : Loop) : Bool :=
  loop.stage = .serving && loop.state.commandsOpen

def serveFirst (loop : Loop) : Option Loop :=
  match loop.waiting with
  | [] => none
  | first :: rest =>
    let (state, outcome) := loop.state.execute first.command
    some { loop with
      state := state, waiting := rest, told := ⟨first.client, some outcome⟩ :: loop.told }

def handleFirst (loop : Loop) : Option Loop :=
  match loop.state.queue with
  | [] => none
  | event :: rest => some { loop with state := { loop.state with queue := rest }.handleEvent event }

/-- The program after a turn, if the turn is possible. -/
def turn (loop : Loop) : Turn → Option Loop
  | .poll => if loop.stage = .serving then some { loop with state := loop.state.tick } else none
  | .post waiting =>
    if loop.stage ≠ .ended && loop.state.commandsOpen then
      some { loop with waiting := loop.waiting ++ [waiting] }
    else none
  | .serve => if loop.readsQueue then loop.serveFirst else none
  | .event => if loop.stage = .serving then loop.handleFirst else none
  | .pass duration => some { loop with state := loop.state.wait duration }
  | .interrupt => if loop.stage = .serving then some { loop with stage := .stopping } else none
  | .stop =>
    if loop.stage = .stopping then
      some { loop with stage := .draining, state := loop.state.shutdown }
    else none
  | .finish =>
    if loop.stage = .draining && loop.waiting.isEmpty then some { loop with stage := .ended }
    else none

def turns (loop : Loop) (list : List Turn) : Option Loop :=
  list.foldlM turn loop

/-- The client that nobody will answer any more, if there is one. -/
def stranded? (loop : Loop) : Option Waiting :=
  if loop.stage = .draining then loop.waiting.head? else none

end Loop

/-- A television that no connection leads to. -/
def Television.unreachable (caller : Remote.Caller) (fault : Remote.Fault) : Television where
  on := (caller.isOn (.error fault)).result
  onDelay := 0
  refusesOnQuery := (caller.isOn (.error fault)).refused
  powerOff := some (fault.failure caller.host)
  powerOffDelay := 0
  sendKeys := some (fault.failure caller.host)
  hasLauncher := false
  launch := none
  appList := none
  appListDelay := 0
  apps := none
  appsDelay := 0

end Televisor.Run
