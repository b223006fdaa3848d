import Televisor.Api.Service
import Televisor.Run.Command

namespace Televisor.Run

open Api Controller

/-! Clients of the API, served between the steps of the controller. -/

/-- What a client has of a request: an answer, or a connection that it follows the states on. -/
inductive Receipt where
  | answer (response : Response)
  | feed (acceptKey : String)
deriving Repr, DecidableEq

namespace State

/-- The service as it is now; the clock on the wall is given. -/
def service (state : State) (token : String) (clock : Nat) : Service :=
  ⟨token, state.controller.published, clock⟩

/-- Carries out a client's command, if commands are taken; a dropped one gets no outcome. -/
def serveCommand (state : State) (dropped : Bool) (command : Command) : State × Response :=
  if !state.commandsOpen || dropped then (state, commandResponse none)
  else
    let (state, outcome) := state.execute command
    (state, commandResponse (some outcome))

def addFeed (state : State) (feed : Feed) : State :=
  { state with sockets := state.sockets ++ [feed] }

/-- Serves a request of a client; a command that is let through is carried out first. -/
def request (state : State) (token : String) (clock : Nat) (dropped : Bool) (request : Request) :
    State × Receipt :=
  match (state.service token clock).react request with
  | .respond response => (state, .answer response)
  | .forward command =>
    let (state, response) := state.serveCommand dropped command
    (state, .answer response)
  | .follow key => (state.addFeed .opened, .feed key)

def updateFeed (state : State) (number : Nat) (outcome : Feed × List Frame) : State :=
  outcome.2.foldl (fun state frame => state.note (.sent number frame))
    { state with sockets := state.sockets.set number outcome.1 }

/-- A client sends a frame; the answer tells whether anybody took it. -/
def takeFrame (state : State) (number : Nat) (frame : ClientFrame) : State × Bool :=
  match state.sockets[number]?.filter (!·.closed) with
  | none => (state, false)
  | some feed => (state.updateFeed number (feed.wake (.client frame)), true)

def settleFeed (state : State) (number : Nat) : State :=
  match state.sockets[number]? with
  | none => state
  | some feed =>
    state.updateFeed number
      (feed.settle state.controller.version state.controller.published.json)

def settleFeeds (state : State) : State :=
  (List.range state.sockets.length).foldl settleFeed state

/-- The controller is gone, and with it what feeds wait for. -/
def endFeeds (state : State) : State :=
  (List.range state.sockets.length).foldl (fun state number =>
    match state.sockets[number]?.filter (!·.closed) with
    | none => state
    | some feed => state.updateFeed number (feed.wake .abandoned)) state

end State

end Televisor.Run
