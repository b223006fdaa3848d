import Televisor.Remote.Packet

namespace Televisor.Remote

/-! An open connection to a television: what has been sent, what comes back for it, and what can go
wrong.  Reading waits for bytes, but not without end. -/

inductive Failure where
  | connection (host : String) (reason : String)
  | timeout (host : String)
  | accessDenied
  | unexpected (answer : String)
deriving Repr, DecidableEq

def Failure.message : Failure → String
  | .connection host reason => "connection to " ++ host ++ " failed: " ++ reason
  | .timeout host => "timed out talking to " ++ host
  | .accessDenied => "access denied by the TV"
  | .unexpected answer => "unexpected response from the TV: " ++ answer

inductive Fault where
  /-- The television took too long. -/
  | timeout
  | broken (reason : String)
deriving Repr, DecidableEq

def Fault.failure (host : String) : Fault → Failure
  | .timeout => .timeout host
  | .broken reason => .connection host reason

def closed : Fault :=
  .broken "early eof"

inductive Reaction where
  | bytes (bytes : List UInt8)
  /-- The packet does not go out. -/
  | fault (fault : Fault)
deriving Repr, DecidableEq

/-- What passes on a connection, and that the owner is told of a refusal. -/
inductive Passed where
  | wrote (packet : List UInt8)
  | unsent (packet : List UInt8) (fault : Fault)
  /-- A whole frame with this payload has been read. -/
  | heard (payload : List UInt8)
  /-- No whole frame came. -/
  | unheard (fault : Fault)
  | reported
deriving Repr, DecidableEq

/-- `arrived` has come and has not been read yet; `reactions` are those to the packets still to be
sent, and `last` is met when bytes are wanted after all of them. -/
structure Line where
  arrived : List UInt8
  reactions : List Reaction
  last : Fault
  passed : List Passed
deriving Repr, DecidableEq

namespace Line

def opened (reactions : List Reaction) (last : Fault) : Line :=
  ⟨[], reactions, last, []⟩

def note (line : Line) (passed : Passed) : Line :=
  { line with passed := line.passed ++ [passed] }

/-- The fault met when more bytes are wanted than have arrived: a television that has still to be
sent something stays silent. -/
def shortage (line : Line) : Fault :=
  if line.reactions.isEmpty then line.last else .timeout

def send (line : Line) (packet : List UInt8) : Except Fault Unit × Line :=
  match line.reactions with
  | [] => (.ok (), line.note (.wrote packet))
  | .bytes bytes :: reactions =>
    (.ok (),
      { line.note (.wrote packet) with
        arrived := line.arrived ++ bytes, reactions := reactions })
  | .fault fault :: reactions =>
    (.error fault, { line.note (.unsent packet fault) with reactions := reactions })

/-- Reads the payload of the next frame, whatever its kind and name are. -/
def readPayload (line : Line) : Except Fault (List UInt8) × Line :=
  match readFrame? line.arrived with
  | some (frame, rest) =>
    (.ok frame.payload, { line.note (.heard frame.payload) with arrived := rest })
  | none => (.error line.shortage, line.note (.unheard line.shortage))

end Line

theorem takeExactly?_length {count : Nat} {bytes taken rest : List UInt8}
    (found : takeExactly? count bytes = some (taken, rest)) : rest.length ≤ bytes.length := by
  simp only [takeExactly?] at found
  split at found
  · cases found
    simp
  · contradiction

theorem readField?_length {bytes data rest : List UInt8}
    (found : readField? bytes = some (data, rest)) : rest.length < bytes.length := by
  match bytes, found with
  | low :: high :: bytes, found =>
    have bound := takeExactly?_length found
    simp only [List.length_cons]
    omega

theorem readFrame?_length {bytes : List UInt8} {frame : Frame} {rest : List UInt8}
    (found : readFrame? bytes = some (frame, rest)) : rest.length < bytes.length := by
  match bytes, found with
  | kind :: bytes, found =>
    simp only [readFrame?, Option.bind_eq_bind, Option.pure_def, Option.bind_eq_some_iff] at found
    obtain ⟨⟨name, middle⟩, first, ⟨payload, last⟩, second, same⟩ := found
    cases same
    have nameBound := readField?_length first
    have payloadBound : last.length < middle.length := readField?_length second
    simp only [List.length_cons]
    omega

end Televisor.Remote
