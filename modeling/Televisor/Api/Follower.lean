import Televisor.Api.WebSocket
import Televisor.Media.State

namespace Televisor.Api

open Media

/-! A client that follows the states.  States are published, frames come from the client and frames
are sent to it, all in any order; where the feed could do one thing or another, it does either. -/

/-- A state under its version. -/
structure Posted where
  version : Nat
  state : MediaState
deriving Repr, DecidableEq

inductive Place where
  /-- The newest state is about to be sent. -/
  | turning
  /-- A frame is on its way to the client. -/
  | sending
  | waiting
  | ended
deriving Repr, DecidableEq

/-- `past` and `told` are what was posted before and what has been sent, the newest first. -/
structure Follower where
  feed : Feed
  place : Place
  current : Posted
  past : List Posted
  /-- Nothing will be published any more. -/
  abandoned : Bool
  /-- What has come from the client and has not been read, the oldest first. -/
  inbox : List ClientFrame
  told : List Posted
  /-- The frames that were sent, the newest first. -/
  frames : List Frame
deriving Repr, DecidableEq

inductive Move where
  | publish (state : MediaState)
  | abandon
  | arrive (frame : ClientFrame)
  | send
  | delivered
  /-- The frame that was on its way cannot be sent. -/
  | lost
  | notice
  | read
  /-- The client is gone, and all it sent has been read. -/
  | vanish
  | leave
deriving Repr, DecidableEq

namespace Follower

/-- A client that has just been let through. -/
def opened (current : Posted) : Follower :=
  ⟨.opened, .turning, current, [], false, [], [], []⟩

/-- Every state that was posted since the client was let through, the newest first. -/
def posted (follower : Follower) : List Posted :=
  follower.current :: follower.past

/-- A state that is posted already is not posted again. -/
def publish (follower : Follower) (state : MediaState) : Follower :=
  if follower.current.state = state then follower
  else
    { follower with current := ⟨follower.current.version + 1, state⟩, past := follower.posted }

def hasNews (follower : Follower) : Bool :=
  follower.feed.hasNews follower.current.version

/-- Takes over what came of the feed. -/
def take (follower : Follower) (outcome : Feed × List Frame) : Follower :=
  { follower with feed := outcome.1, frames := outcome.2.reverse ++ follower.frames }

def send (follower : Follower) : Follower :=
  { follower.take (follower.feed.send follower.current.version follower.current.state.json) with
    place := .sending, told := follower.current :: follower.told }

/-- Whoever notices that there is a newer state has seen it by that. -/
def notice (follower : Follower) : Follower :=
  let (feed, frames) := follower.feed.wake .changed
  { follower.take ({ feed with seen := follower.current.version }, frames) with place := .turning }

/-- Reads a frame of the client; unless that closes the feed, it waits again at once. -/
def read (follower : Follower) (frame : ClientFrame) (rest : List ClientFrame) : Follower :=
  let (feed, frames) := follower.feed.wake (.client frame)
  { follower.take (feed, frames) with
    place := if feed.closed then .ended else .waiting, inbox := rest }

def leave (follower : Follower) : Follower :=
  { follower.take (follower.feed.wake .abandoned) with place := .ended }

/-- The connection is gone. -/
def hangUp (follower : Follower) : Follower :=
  { follower with feed := { follower.feed with closed := true }, place := .ended }

/-- The follower after a move, if the move is possible. -/
def move (follower : Follower) : Move → Option Follower
  | .publish state => if follower.abandoned then none else some (follower.publish state)
  | .abandon => some { follower with abandoned := true }
  | .arrive frame => some { follower with inbox := follower.inbox ++ [frame] }
  | .send => if follower.place = .turning then some follower.send else none
  | .delivered =>
    if follower.place = .sending then some { follower with place := .waiting } else none
  | .lost => if follower.place = .sending then some follower.hangUp else none
  | .notice =>
    if follower.place = .waiting && follower.hasNews then some follower.notice else none
  | .read =>
    match follower.inbox with
    | [] => none
    | frame :: rest => if follower.place = .waiting then some (follower.read frame rest) else none
  | .vanish =>
    if follower.place = .waiting && follower.inbox.isEmpty then some follower.hangUp else none
  | .leave =>
    if follower.place = .waiting && follower.abandoned && !follower.hasNews then some follower.leave
    else none

def moves (follower : Follower) (list : List Move) : Option Follower :=
  list.foldlM move follower

end Follower

end Televisor.Api
