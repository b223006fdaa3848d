namespace Televisor.Api

/-! The feed that a client of the WebSocket follows.  It is told the newest state whenever there is
one it has not seen. -/

inductive Frame where
  | text (payload : String)
  | close (payload : List UInt8)
  | pong (payload : List UInt8)
  | finished
deriving Repr, DecidableEq

inductive ClientFrame where
  | text
  | binary
  | ping (payload : List UInt8)
  | pong
  /-- What cannot be read as a frame. -/
  | garbled
  | close
deriving Repr, DecidableEq

/-- `seen` is the version that was sent last; `pending` holds while the newest state is still to be
sent. -/
structure Feed where
  seen : Nat
  pending : Bool
  closed : Bool
deriving Repr, DecidableEq

inductive Wakeup where
  | changed
  | client (frame : ClientFrame)
  /-- No version will ever follow. -/
  | abandoned
deriving Repr, DecidableEq

namespace Feed

def opened : Feed := ⟨0, true, false⟩

def refused : Feed := ⟨0, false, true⟩

/-- Sends the state of the given version if one is pending. -/
def send (feed : Feed) (version : Nat) (state : String) : Feed × List Frame :=
  if feed.pending && !feed.closed then
    ({ feed with seen := version, pending := false }, [.text state])
  else (feed, [])

/-- Reacts to a wakeup; a client's frame causes no state to be sent. -/
def wake (feed : Feed) : Wakeup → Feed × List Frame
  | .changed => ({ feed with pending := true }, [])
  | .abandoned => ({ feed with closed := true }, [.finished])
  | .client .close => ({ feed with closed := true }, [.finished])
  | .client (.ping payload) => ({ feed with pending := false }, [.pong payload])
  | .client _ => ({ feed with pending := false }, [])

def hasNews (feed : Feed) (version : Nat) : Bool :=
  !feed.closed && feed.seen != version

/-- Goes on until it waits: sends what is pending, and what has changed since. -/
def settle (feed : Feed) (version : Nat) (state : String) : Feed × List Frame :=
  let (feed, first) := feed.send version state
  if feed.hasNews version then
    let (feed, _) := feed.wake .changed
    let (feed, second) := feed.send version state
    (feed, first ++ second)
  else (feed, first)

end Feed

end Televisor.Api
