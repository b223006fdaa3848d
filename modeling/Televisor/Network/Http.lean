import Televisor.Url.Parse

namespace Televisor.Network

/-! Requests over HTTP, with the other side given as a script of replies. -/

structure Request where
  method : String
  url : String
  headers : List (String × String)
  body : Option String
deriving Repr, DecidableEq

structure Reply where
  status : Nat
  headers : List (String × String)
  body : String
  broken : Bool
deriving Repr, DecidableEq

inductive Breakdown where
  | connect (message : String)
  | timeout (message : String)
  | other (message : String)
deriving Repr, DecidableEq

inductive Answer where
  | reply (reply : Reply)
  | breakdown (reason : Breakdown)
deriving Repr, DecidableEq

structure Scripted where
  answer : Answer
  delay : Nat
deriving Repr, DecidableEq

/-- The answers still to come, by method; the last one of a method repeats. -/
abbrev Replies := List (String × List Scripted)

def refused : Scripted :=
  ⟨.breakdown (.connect "connection refused"), 0⟩

def Replies.next (replies : Replies) (method : String) : Scripted × Replies :=
  match replies.find? (·.1 == method) with
  | some (_, first :: second :: rest) =>
    (first, replies.map fun queue =>
      if queue.1 == method then (method, second :: rest) else queue)
  | some (_, [only]) => (only, replies)
  | _ => (refused, replies)

def Replies.set (replies : Replies) (method : String) (queue : List Scripted) : Replies :=
  replies.filter (·.1 != method) ++ [(method, queue)]

/-- A request under way: when it ends and how. -/
structure Exchange where
  due : Nat
  answer : Answer
deriving Repr, DecidableEq

def Reply.isSuccess (reply : Reply) : Bool :=
  200 ≤ reply.status && reply.status < 300

def isReadable (value : String) : Bool :=
  value.toList.all fun c => (0x20 ≤ c.toNat && c.toNat < 0x7F) || c = '\t'

/-- The first header of that name in any case, if it can be read as text. -/
def Reply.header? (reply : Reply) (name : String) : Option String :=
  let header := reply.headers.find? fun header =>
    header.1.toList.map Char.toLower == name.toList
  (header.map (·.2)).filter isReadable

def isHeaderValue (value : String) : Bool :=
  value.toList.all fun c => c = '\t' || (0x20 ≤ c.toNat && c.toNat != 0x7F)

/-- The request as it goes out, its URL in normal form, if it can be built at all. -/
def Request.built? (request : Request) : Option Request :=
  match Url.parse request.url with
  | .ok url =>
    if url.isHttp && request.headers.all (isHeaderValue ·.2) then
      some { request with url := url.text }
    else none
  | .error _ => none

/-- How a scripted answer ends for a client that waits no longer than `limit`. -/
def Scripted.exchange (scripted : Scripted) (limit : Option Nat) (now : Nat) : Exchange :=
  match limit with
  | some limit =>
    if limit ≤ scripted.delay then ⟨now + limit, .breakdown (.timeout "operation timed out")⟩
    else ⟨now + scripted.delay, scripted.answer⟩
  | none => ⟨now + scripted.delay, scripted.answer⟩

def unbuilt (now : Nat) : Exchange :=
  ⟨now, .breakdown (.other "builder error")⟩

theorem Scripted.exchange_due_ge (scripted : Scripted) (limit : Option Nat) (now : Nat) :
    now ≤ (scripted.exchange limit now).due := by
  cases limit with
  | none => simp [Scripted.exchange]
  | some limit =>
      simp only [Scripted.exchange]
      split <;> simp

end Televisor.Network
