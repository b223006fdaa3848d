import Televisor.Markup.Escape
import Televisor.Markup.Scan
import Televisor.Text.Number

namespace Televisor.Rendering

open Markup

/-! Volume and mute in the event bodies a renderer pushes.  The body is a property set whose
`LastChange` property holds an escaped event document. -/

structure Update where
  volume : Option Nat
  muted : Option Bool
deriving Repr, DecidableEq

def Update.none : Update := ⟨.none, .none⟩

/-- An element without a channel counts as the master's. -/
def isMaster (attributes : List Char) : Bool :=
  match attribute? attributes "channel".toList with
  | some channel => channel == "Master".toList
  | .none => true

def masterValues (event : List Char) (tag : String) : List (Option (List Char)) :=
  ((emptyElements event tag.toList).filter isMaster).map fun attributes =>
    attribute? attributes "val".toList

def readVolume? (text : List Char) : Option Nat :=
  Text.readUnsigned? (Nat.pow 2 32) text

def readMute? (text : List Char) : Option Bool :=
  if text == "1".toList || text == "true".toList then some true
  else if text == "0".toList || text == "false".toList then some false
  else .none

/-- The last element of each tag decides, even if its value cannot be read. -/
def parseEvent (event : List Char) : Update where
  volume := (masterValues event "Volume").getLast?.bind (·.bind readVolume?)
  muted := (masterValues event "Mute").getLast?.bind (·.bind readMute?)

def parseLastChange (body : String) : Update :=
  match elementText? body.toList "LastChange".toList with
  | some lastChange => parseEvent (unescape lastChange)
  | .none => .none

end Televisor.Rendering
