import Televisor.Run.State

namespace Televisor.Run

open Controller Discovery Media Telemetry

/-! What a trace tells.  The latest record comes first in a trace, so the moments before it are its
tails. -/

namespace Record

def call? (record : Record) : Option Call :=
  match record.what with
  | .called call => some call
  | _ => none

def published? (record : Record) : Option MediaState :=
  match record.what with
  | .published state => some state
  | _ => none

def event? (record : Record) : Option Event :=
  match record.what with
  | .raised event => some event
  | _ => none

def delivered? (record : Record) : Option Apps :=
  match record.what with
  | .delivered apps => some apps
  | _ => none

def starting? (record : Record) : Option String :=
  match record.what with
  | .starting location => some location
  | _ => none

def listening? (record : Record) : Option Nat :=
  match record.what with
  | .listening number => some number
  | _ => none

def stopped? (record : Record) : Option Nat :=
  match record.what with
  | .stopped number => some number
  | _ => none

def took? (record : Record) : Option (String × Session) :=
  match record.what with
  | .took body session => some (body, session)
  | _ => none

end Record

def callsIn (trace : List Record) : List Call :=
  trace.filterMap Record.call?

def shownIn (trace : List Record) : List MediaState :=
  trace.filterMap Record.published?

/-- The raised events in the order they were raised. -/
def raisedIn (trace : List Record) : List Event :=
  (trace.filterMap Record.event?).reverse

def deliveredIn (trace : List Record) : Option Apps :=
  trace.findSome? Record.delivered?

def startsIn (trace : List Record) : List String :=
  trace.filterMap Record.starting?

def begunIn (trace : List Record) : List Nat :=
  trace.filterMap Record.listening?

/-- The receivers that have been stopped, one entry for each time. -/
def stoppedIn (trace : List Record) : List Nat :=
  trace.filterMap Record.stopped?

/-- The event bodies that came to a session, each with the session as it was then. -/
def takenIn (trace : List Record) : List (String × Session) :=
  trace.filterMap Record.took?

def listenersIn (trace : List Record) : List Nat :=
  (begunIn trace).filter fun number => number ∉ stoppedIn trace

section Append

variable (later earlier : List Record)

@[simp] theorem callsIn_append : callsIn (later ++ earlier) = callsIn later ++ callsIn earlier :=
  List.filterMap_append

@[simp] theorem shownIn_append : shownIn (later ++ earlier) = shownIn later ++ shownIn earlier :=
  List.filterMap_append

@[simp] theorem raisedIn_append :
    raisedIn (later ++ earlier) = raisedIn earlier ++ raisedIn later := by
  simp [raisedIn]

@[simp] theorem deliveredIn_append :
    deliveredIn (later ++ earlier) = (deliveredIn later).or (deliveredIn earlier) :=
  List.findSome?_append

@[simp] theorem startsIn_append :
    startsIn (later ++ earlier) = startsIn later ++ startsIn earlier :=
  List.filterMap_append

@[simp] theorem begunIn_append : begunIn (later ++ earlier) = begunIn later ++ begunIn earlier :=
  List.filterMap_append

@[simp] theorem stoppedIn_append :
    stoppedIn (later ++ earlier) = stoppedIn later ++ stoppedIn earlier :=
  List.filterMap_append

@[simp] theorem takenIn_append : takenIn (later ++ earlier) = takenIn later ++ takenIn earlier :=
  List.filterMap_append

end Append

end Televisor.Run
