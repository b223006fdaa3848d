import Televisor.Remote.Key
import Televisor.Remote.Line

namespace Televisor.Remote

/-! Talking to a television: it is asked for permission, and then told keys one by one.  Every
conversation has a connection of its own. -/

/-- What an answer means for access. -/
inductive Verdict where
  | granted
  | denied
  | waiting
  | unknown
deriving Repr, DecidableEq

/-- A grant and a denial are whole answers; a cancellation and a waiting notice are told by their
first byte. -/
def Verdict.ofPayload (payload : List UInt8) : Verdict :=
  if payload = [0x64, 0x00, 0x01, 0x00] then .granted
  else if payload = [0x64, 0x00, 0x00, 0x00] || payload.head? = some 0x65 then .denied
  else if payload.head? = some 0x0A then .waiting
  else .unknown

def payloadText (payload : List UInt8) : String :=
  "[" ++ String.intercalate ", " (payload.map fun byte => String.ofList (Text.hexByte byte)) ++ "]"

def readDecision (payload : List UInt8) : Except Failure Unit :=
  match Verdict.ofPayload payload with
  | .granted => .ok ()
  | .denied => .error .accessDenied
  | _ => .error (.unexpected (payloadText payload))

namespace Line

theorem readPayload_length {line after : Line} {payload : List UInt8}
    (read : line.readPayload = (.ok payload, after)) :
    after.arrived.length < line.arrived.length := by
  unfold readPayload at read
  split at read
  · rename_i found
    cases read
    exact readFrame?_length found
  · cases read

/-- Waits until the television has decided; people may take their time, and are waited for as long
as notices keep coming. -/
def awaitDecision (line : Line) (host : String) : Except Failure Unit × Line :=
  match _read : line.readPayload with
  | (.error fault, line) => (.error (fault.failure host), line)
  | (.ok payload, line) =>
    if Verdict.ofPayload payload = .waiting then line.awaitDecision host
    else (readDecision payload, line)
termination_by line.arrived.length
decreasing_by exact readPayload_length _read

def introduce (line : Line) (host : String) (identity : Identity) : Except Failure Unit × Line :=
  match line.send (authPacket identity) with
  | (.error fault, line) => (.error (fault.failure host), line)
  | (.ok (), line) => line.awaitDecision host

/-- Sends keys in order, each after the one before it has been answered, up to the first failure. -/
def tellKeys (line : Line) (host : String) : List String → Except Failure Unit × Line
  | [] => (.ok (), line)
  | key :: keys =>
    match line.send (keyPacket key) with
    | (.error fault, line) => (.error (fault.failure host), line)
    | (.ok (), line) =>
      match line.readPayload with
      | (.error fault, line) => (.error (fault.failure host), line)
      | (.ok payload, line) =>
        if Verdict.ofPayload payload = .denied then (.error .accessDenied, line)
        else line.tellKeys host keys

end Line

structure Caller where
  host : String
  identity : Identity
deriving Repr, DecidableEq

/-- How a conversation ended, and what passed in it. -/
structure Conversation (α : Type) where
  result : Except Failure α
  passed : List Passed

namespace Conversation

variable {α : Type}

/-- Tells the owner that the television refused this client. -/
def report (conversation : Conversation α) : Conversation α :=
  { conversation with passed := conversation.passed ++ [.reported] }

def refused (conversation : Conversation α) : Bool :=
  conversation.passed.contains .reported

end Conversation

namespace Caller

def talk (caller : Caller) (opening : Except Fault Line)
    (speak : Line → Except Failure Unit × Line) : Conversation Unit :=
  match opening with
  | .error fault => ⟨.error (fault.failure caller.host), []⟩
  | .ok line =>
    let (result, line) := speak line
    ⟨result, line.passed⟩

def introduce (caller : Caller) (opening : Except Fault Line) : Conversation Unit :=
  caller.talk opening fun line => line.introduce caller.host caller.identity

def deliverKeys (caller : Caller) (opening : Except Fault Line) (keys : List String) :
    Conversation Unit :=
  caller.talk opening fun line =>
    match line.introduce caller.host caller.identity with
    | (.error failure, line) => (.error failure, line)
    | (.ok (), line) => line.tellKeys caller.host keys

/-- Whether the television is on: it is if it lets this client in, and it counts as off if it cannot
be reached or refuses. -/
def isOn (caller : Caller) (opening : Except Fault Line) : Conversation Bool :=
  let conversation := caller.introduce opening
  match conversation.result with
  | .ok () => { conversation with result := .ok true }
  | .error .accessDenied => { conversation.report with result := .ok false }
  | .error (.unexpected answer) => { conversation with result := .error (.unexpected answer) }
  | .error _ => { conversation with result := .ok false }

def sendKeys (caller : Caller) (opening : Except Fault Line) (keys : List String) :
    Conversation Unit :=
  let conversation := caller.deliverKeys opening keys
  match conversation.result with
  | .error .accessDenied => conversation.report
  | _ => conversation

def powerOff (caller : Caller) (opening : Except Fault Line) : Conversation Unit :=
  caller.sendKeys opening [Key.powerOff]

end Caller

end Televisor.Remote
