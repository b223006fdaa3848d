import Televisor.Run.Command
import Televisor.Run.Tick

namespace Televisor.Run

open Controller Network

/-! Runs of a controller: operations one after another, in any order, while the surroundings answer
as they like. -/

inductive Operation where
  | poll
  | command (command : Command)
  /-- The first event of the queue is handled. -/
  | event
  | shutdown
  | pass (duration : Nat)
  /-- Something happens by itself between two operations. -/
  | happen (what : Happening)
  /-- Something will happen by itself, and may fall into a later operation. -/
  | expect (arrival : Arrival)
  | surround (television : Television) (host : Host) (replies : Replies) (delays : Delays)

namespace State

def handleFirst (state : State) : State :=
  match state.queue with
  | [] => state
  | event :: rest => { state with queue := rest }.handleEvent event

def apply (state : State) : Operation → State
  | .poll => state.tick
  | .command command => (state.execute command).1
  | .event => state.handleFirst
  | .shutdown => state.shutdown
  | .pass duration => state.wait duration
  | .happen what => state.happen what
  | .expect arrival => { state with arrivals := insertArrival arrival state.arrivals }
  | .surround television host replies delays =>
    { state with television := television, host := host, replies := replies, delays := delays }

def run (state : State) (operations : List Operation) : State :=
  operations.foldl apply state

/-- Whatever is due next happens, if anything is. -/
def onward (state : State) : State :=
  match state.nextActivity? with
  | some activity => state.perform activity
  | none => state

theorem run_cons (state : State) (operation : Operation) (rest : List Operation) :
    state.run (operation :: rest) = (state.apply operation).run rest := rfl

end State

/-- A step of a run at close range, where the wait for the list of applications can be looked into:
anything may come between its beginning and its end. -/
inductive Move where
  /-- Somebody begins to wait for the list. -/
  | ask
  | onward
  | operation (operation : Operation)

namespace State

/-- Nobody begins to wait for the list while somebody else does. -/
def move (state : State) : Move → State
  | .ask => if state.discovery.isSome then state else state.beginDiscovery
  | .onward => state.onward
  | .operation .poll => if state.discovery.isSome then state else state.tick
  | .operation operation => state.apply operation

def moves (state : State) (moves : List Move) : State :=
  moves.foldl move state

theorem moves_cons (state : State) (move : Move) (rest : List Move) :
    state.moves (move :: rest) = (state.move move).moves rest := rfl

end State

end Televisor.Run
