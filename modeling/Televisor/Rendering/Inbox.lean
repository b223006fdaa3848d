import Televisor.Text.Utf8
import Televisor.Url.Address

namespace Televisor.Rendering

open Url

/-! Where a renderer delivers its events: a path of our own that takes one method. -/

structure Inbox where
  path : String
  /-- The address and port it listens at. -/
  bound : Option (Address × Nat)
  /-- Whether somebody takes the bodies. -/
  consumed : Bool
deriving Repr, DecidableEq

structure Delivery where
  method : String
  path : String
  body : List UInt8
deriving Repr, DecidableEq

namespace Inbox

/-- The path of an inbox that has this id.  Ids differ from inbox to inbox, so that an event meant for
an earlier subscription finds nothing. -/
def pathOf (id : String) : String := "/notify/" ++ id

def new (path : String) : Inbox := ⟨path, none, false⟩

def listening (inbox : Inbox) : Bool := inbox.bound.isSome

/-- An inbox that listens already stays where it is. -/
def start (inbox : Inbox) (address : Address) (port : Nat) : Inbox :=
  { inbox with bound := inbox.bound.or (some (address, port)) }

def stop (inbox : Inbox) : Inbox :=
  { inbox with bound := none, consumed := false }

def consume (inbox : Inbox) : Inbox :=
  { inbox with consumed := true }

def callback? (inbox : Inbox) : Option String :=
  inbox.bound.map fun (address, port) => "http://" ++ address.withPort port ++ inbox.path

/-- The bodies that are taken when one is handed over. -/
def take (inbox : Inbox) (body : String) : List String :=
  if inbox.consumed then [body] else []

def bodyLimit : Nat := 2 * 1024 * 1024

/-- The body of a delivery, or the status that refuses it.  The body is read before the method is
looked at. -/
def read (inbox : Inbox) (delivery : Delivery) : Except Nat String :=
  if delivery.path ≠ inbox.path then .error 404
  else if bodyLimit < delivery.body.length then .error 413
  else
    match Text.textOfUtf8? delivery.body with
    | none => .error 400
    | some body => if delivery.method = "NOTIFY" then .ok body else .error 405

/-- What is delivered reaches an inbox only while it listens. -/
def accept? (inbox : Inbox) (delivery : Delivery) : Option String :=
  if inbox.listening then (inbox.read delivery).toOption else none

end Inbox

end Televisor.Rendering
