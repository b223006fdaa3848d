import Televisor.Config.Environment
import Televisor.Url.Encoding

namespace Televisor.Report

/-! Which reports are printed.  A filter is a list of directives between commas: a level, a topic, or
a topic and its level.  Of the directives that match a report the one with the longest topic decides;
a report no directive matches is not printed. -/

/-- The greater a level, the less serious are the reports it lets through. -/
def levels : List (String × Nat) :=
  [("off", 0), ("error", 1), ("warn", 2), ("info", 3), ("debug", 4), ("trace", 5)]

def level? (text : List Char) : Option Nat :=
  let name := String.ofList (text.map Char.toLower)
  match levels.find? fun level => level.1 = name || toString level.2 = name with
  | some level => some level.2
  | none => none

structure Directive where
  /-- What reports are about; a report matches if its own topic begins so. -/
  topic : List Char
  level : Nat
deriving Repr, DecidableEq

def isTopicChar (c : Char) : Bool :=
  c.isAlphanum || c = '_' || c = ':' || c = '-'

/-- A topic alone lets everything through. -/
def Directive.ofText? (text : List Char) : Option Directive :=
  match level? text with
  | some level => some ⟨[], level⟩
  | none =>
    match text.takeWhile isTopicChar, text.dropWhile isTopicChar with
    | [], _ => none
    | topic, [] => some ⟨topic, 5⟩
    | topic, ['='] => some ⟨topic, 5⟩
    | topic, '=' :: level => (level? level).map (⟨topic, ·⟩)
    | _, _ => none

abbrev Filter := List Directive

/-- A filter of a text; one with nothing in it lets errors through. -/
def Filter.ofText? (text : String) : Option Filter :=
  match (Url.splitAll ',' text.toList).filter (!·.isEmpty) with
  | [] => some [⟨[], 1⟩]
  | pieces => pieces.mapM Directive.ofText?

/-- Everything but what only developers want to know. -/
def Filter.usual : Filter := [⟨[], 3⟩]

def Filter.ofEnvironment (environment : Config.Environment) : Filter :=
  ((environment.get? "RUST_LOG").bind Filter.ofText?).getD Filter.usual

/-- The directive that decides on a topic, the last of those with the longest topic. -/
def Filter.deciding? (filter : Filter) (topic : List Char) : Option Directive :=
  (filter.filter (·.topic.isPrefixOf topic)).foldl (fun best directive =>
    match best with
    | some best =>
      if best.topic.length ≤ directive.topic.length then some directive else some best
    | none => some directive) none

def Filter.prints (filter : Filter) (topic : String) (level : Nat) : Bool :=
  (filter.deciding? topic.toList).any (level ≤ ·.level)

def ownTopic : String := "tv_control_bridge"

end Televisor.Report
