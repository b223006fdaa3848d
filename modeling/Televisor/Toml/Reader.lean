import Televisor.Toml.Quoting
import Televisor.Toml.Scalar
import Televisor.Toml.Table

namespace Televisor.Toml

open Data

/-! Reading TOML documents. -/

/-- Values and dotted keys are nested less deeply than this. -/
def depthLimit : Nat := 80

def dropBlanks (text : List Char) : List Char :=
  text.dropWhile isBlank

/-- Drops a comment up to its line end; control characters may not stand in one. -/
def dropComment (text : List Char) : List Char :=
  match text with
  | '#' :: rest => rest.dropWhile isLineChar
  | text => text

/-- Drops blanks, comments and line ends; `fuel` is at least the number of characters. -/
def dropSpace (fuel : Nat) (text : List Char) : List Char :=
  match fuel with
  | 0 => text
  | fuel + 1 =>
    match dropComment (dropBlanks text) with
    | '\n' :: rest => dropSpace fuel rest
    | '\r' :: '\n' :: rest => dropSpace fuel rest
    | text => text

def dropAllSpace (text : List Char) : List Char :=
  dropSpace (text.length + 1) text

def isKeyChar (c : Char) : Bool :=
  c.isAlphanum || c = '-' || c = '_'

def readKeyPart? (text : List Char) : Option (String × List Char) :=
  match text with
  | '"' :: _ => readKeyText? text
  | '\'' :: _ => readKeyText? text
  | text =>
    let word := text.takeWhile isKeyChar
    if word.isEmpty then none else some (String.ofList word, text.dropWhile isKeyChar)

/-- The parts of a dotted key, with blanks around the dots; `fuel` bounds their number. -/
def readKey? (fuel : Nat) (text : List Char) : Option (List String × List Char) :=
  match fuel with
  | 0 => none
  | fuel + 1 => do
    let (part, rest) ← readKeyPart? (dropBlanks text)
    match dropBlanks rest with
    | '.' :: rest =>
      let (parts, rest) ← readKey? fuel rest
      return (part :: parts, rest)
    | rest => return ([part], rest)

/-- A key of the allowed length, as the path to its last part and that part. -/
def readPath? (text : List Char) : Option (List String × String × List Char) := do
  let (parts, rest) ← readKey? (depthLimit - 1) text
  let last ← parts.getLast?
  return (parts.dropLast, last, rest)

mutual

/-- Reads a value; `fuel` is at least the number of characters, and `depth` values are open around
it. -/
def readValue? (fuel depth : Nat) (text : List Char) : Option (Datum × List Char) :=
  match fuel with
  | 0 => none
  | fuel + 1 =>
    match text with
    | '"' :: _ => (readText? text).map fun (value, rest) => (.text value, rest)
    | '\'' :: _ => (readText? text).map fun (value, rest) => (.text value, rest)
    | '[' :: rest =>
      if depth + 1 < depthLimit then
        (readItems? fuel (depth + 1) rest).map fun (items, rest) => (.list items, rest)
      else none
    | '\x7b' :: rest =>
      if depth + 1 < depthLimit then
        match dropBlanks rest with
        | '\x7d' :: rest => some (.object [], rest)
        | rest =>
          (readFields? fuel (depth + 1) .emptyTable rest).map fun (node, rest) =>
            (node.toDatum, rest)
      else none
    | text => readScalar? text

def readItems? (fuel depth : Nat) (text : List Char) : Option (List Datum × List Char) :=
  match fuel with
  | 0 => none
  | fuel + 1 =>
    match dropAllSpace text with
    | ']' :: rest => some ([], rest)
    | text => do
      let (item, rest) ← readValue? fuel depth text
      match dropAllSpace rest with
      | ']' :: rest => return ([item], rest)
      | ',' :: rest =>
        let (items, rest) ← readItems? fuel depth rest
        return (item :: items, rest)
      | _ => none

def readFields? (fuel depth : Nat) (node : Node) (text : List Char) : Option (Node × List Char) :=
  match fuel with
  | 0 => none
  | fuel + 1 => do
    let (path, key, rest) ← readPath? text
    let rest ← skip? '=' rest
    let (value, rest) ← readValue? fuel depth (dropBlanks rest)
    let node ← node.putDotted path key value
    match dropBlanks rest with
    | '\x7d' :: rest => return (node, rest)
    | ',' :: rest => readFields? fuel depth node rest
    | _ => none

end

/-- Nothing but blanks and a comment may stand before the end of a line. -/
def finishLine? (text : List Char) : Option (List Char) :=
  match dropComment (dropBlanks text) with
  | [] => some []
  | text => afterLineEnd? text

/-- Reads the lines of a document into the tables; `header` is the path of the open table. -/
def readLines (fuel : Nat) (header : List String) (root : Node) (text : List Char) : Option Node :=
  match fuel with
  | 0 => none
  | fuel + 1 =>
    match dropAllSpace text with
    | [] => some root
    | '[' :: '[' :: rest => do
      let (path, key, rest) ← readPath? rest
      let rest ← skip? ']' rest
      let rest ← skip? ']' rest
      let rest ← finishLine? rest
      let root ← root.addTable path key
      readLines fuel (path ++ [key]) root rest
    | '[' :: rest => do
      let (path, key, rest) ← readPath? rest
      let rest ← skip? ']' rest
      let rest ← finishLine? rest
      let root ← root.openTable path key
      readLines fuel (path ++ [key]) root rest
    | text => do
      let (path, key, rest) ← readPath? text
      let rest ← skip? '=' rest
      let (value, rest) ← Toml.readValue? (rest.length + 1) 0 (dropBlanks rest)
      let rest ← finishLine? rest
      let root ← root.put header path key value
      readLines fuel header root rest

/-- A byte order mark at the front does not count. -/
def dropByteOrderMark (text : List Char) : List Char :=
  match text with
  | '\uFEFF' :: rest => rest
  | text => text

def parse? (text : String) : Option Datum :=
  let text := dropByteOrderMark text.toList
  (readLines (text.length + 1) [] .emptyTable text).map Node.toDatum

end Televisor.Toml
