import Televisor.Markup.Scan
import Televisor.Text.Slice

namespace Televisor.Markup.Cursor

open Text

/-! The searches with byte offsets for positions, as they run over a text that stays in one place.  Every
part that is taken of the text is checked, and every loop is given one turn at a time. -/

inductive Mishap where
  /-- A part was asked for whose ends do not lie between characters of the text. -/
  | outside (start : Nat) (stop : Option Nat)
  /-- A loop took more turns than it was given. -/
  | endless
deriving Repr, DecidableEq

def restFrom (text : List Char) (start : Nat) : Except Mishap (List Char) :=
  match dropBytes? start text with
  | some rest => .ok rest
  | none => .error (.outside start none)

def slice (text : List Char) (start stop : Nat) : Except Mishap (List Char) :=
  match sliceBytes? start stop text with
  | some part => .ok part
  | none => .error (.outside start (some stop))

/-- What one turn of a loop comes to. -/
inductive Turn (α : Type) where
  | ended (answer : α)
  /-- The loop goes on from a position, and this is made of what it comes to from there. -/
  | onward (position : Nat) (collect : α → α)

def loop {α : Type} (turn : Nat → Except Mishap (Turn α)) :
    (turns position : Nat) → Except Mishap α
  | 0, _ => .error .endless
  | turns + 1, position => do
    match ← turn position with
    | .ended answer => return answer
    | .onward next collect => return collect (← loop turn turns next)

/-- A loop has at most one turn at each offset of the text, its end included. -/
def loopFrom {α : Type} (turn : Nat → Except Mishap (Turn α)) (text : List Char) (start : Nat) :
    Except Mishap α :=
  loop turn (utf8Length text + 1) start

def tagTurn (text tag : List Char) (position : Nat) : Except Mishap (Turn (Option Nat)) := do
  match offsetOf? (openWord tag) (← restFrom text position) with
  | none => return .ended none
  | some found =>
    let after := position + found + utf8Length (openWord tag)
    match ← restFrom text after with
    | [] => return .onward after id
    | c :: _ =>
      if c = '>' then return .ended (some (after + 1))
      else if isBlank c then
        match offsetOf? ['>'] (← restFrom text after) with
        | none => return .ended none
        | some size => return .ended (some (after + size + 1))
      else return .onward after id

def openTagEnd (text tag : List Char) (start : Nat) : Except Mishap (Option Nat) :=
  loopFrom (tagTurn text tag) text start

/-- The part of the text from a position up to the next closing tag, if there is one, and where that
ends. -/
def untilClosed (text tag : List Char) (start : Nat) : Except Mishap (Option (List Char × Nat)) := do
  match offsetOf? (closeWord tag) (← restFrom text start) with
  | none => return none
  | some size =>
    return some (← slice text start (start + size), start + size + utf8Length (closeWord tag))

def elementText (text tag : List Char) : Except Mishap (Option (List Char)) := do
  match ← openTagEnd text tag 0 with
  | none => return none
  | some start => return (← untilClosed text tag start).map (·.1)

def blockTurn (text tag : List Char) (position : Nat) : Except Mishap (Turn (List (List Char))) := do
  match ← openTagEnd text tag position with
  | none => return .ended []
  | some start =>
    match ← untilClosed text tag start with
    | none => return .ended []
    | some (inside, stop) => return .onward stop (inside :: ·)

def blocks (text tag : List Char) : Except Mishap (List (List Char)) :=
  loopFrom (blockTurn text tag) text 0

def emptyTurn (text tag : List Char) (position : Nat) : Except Mishap (Turn (List (List Char))) := do
  let word := openWord tag ++ [' ']
  match offsetOf? word (← restFrom text position) with
  | none => return .ended []
  | some found =>
    let start := position + found + utf8Length word
    match offsetOf? ['>'] (← restFrom text start) with
    | none => return .ended []
    | some size =>
      let attributes ← slice text start (start + size)
      return .onward (start + size) (trimEnd '/' attributes :: ·)

def emptyElements (text tag : List Char) : Except Mishap (List (List Char)) :=
  loopFrom (emptyTurn text tag) text 0

def attributeTurn (text name : List Char) (position : Nat) :
    Except Mishap (Turn (Option (List Char))) := do
  let word := name ++ ['=', '"']
  match offsetOf? word (← restFrom text position) with
  | none => return .ended none
  | some found =>
    let passed ← slice text 0 (position + found)
    let start := position + found + utf8Length word
    match offsetOf? ['"'] (← restFrom text start) with
    | none => return .ended none
    | some size =>
      if passed.getLast?.all isBlank then return .ended (some (← slice text start (start + size)))
      else return .onward (start + size) id

def attributeValue (attributes name : List Char) : Except Mishap (Option (List Char)) :=
  loopFrom (attributeTurn attributes name) attributes 0

end Televisor.Markup.Cursor
