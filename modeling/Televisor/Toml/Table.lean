import Televisor.Data.Datum

namespace Televisor.Toml

open Data

/-! Tables as they grow while a document is read, with the rules against defining one twice. -/

/-- A table is implicit if no header names it, and dotted if it exists through dotted keys. -/
inductive Node where
  | value (datum : Datum)
  | table (implicit dotted : Bool) (entries : List (String × Node))
  | tables (items : List Node)

namespace Node

abbrev Entries := List (String × Node)

def emptyTable : Node :=
  .table false false []

/-- Replaces the node under a key, which may be absent. -/
def updateEntry (key : String) (change : Option Node → Option Node) : Entries → Option Entries
  | [] => (change none).map fun node => [(key, node)]
  | entry :: rest =>
    if entry.1 = key then (change (some entry.2)).map fun node => (key, node) :: rest
    else (updateEntry key change rest).map (entry :: ·)

def updateLast (change : Node → Option Node) : List Node → Option (List Node)
  | [] => none
  | [last] => (change last).map ([·])
  | first :: rest => (updateLast change rest).map (first :: ·)

/-- Changes the entries of the table at the end of a path.  Missing tables are created; a path
through several tables of one name leads into the last; dotted keys lead into no table that a
header names. -/
def descend (throughDots : Bool) (change : Bool → Entries → Option Entries) :
    List String → Node → Option Node
  | [], .table implicit dotted entries => (change dotted entries).map (.table implicit dotted)
  | [], _ => none
  | key :: path, .table implicit dotted entries => do
    let entries ← updateEntry key (fun
      | none => descend throughDots change path (.table true throughDots [])
      | some (.value _) => none
      | some (.tables items) =>
        (updateLast (descend throughDots change path) items).map .tables
      | some (.table implicit dotted entries) =>
        if throughDots && !implicit then none
        else descend throughDots change path (.table implicit dotted entries)) entries
    return .table implicit dotted entries
  | _ :: _, _ => none

/-- Puts a value under a dotted key of the given table; only tables made by dotted keys take it. -/
def putDotted (path : List String) (key : String) (datum : Datum) (node : Node) : Option Node :=
  descend true (fun dotted entries =>
    if dotted = path.isEmpty then none
    else
      updateEntry key (fun
        | none => some (.value datum)
        | some _ => none) entries) path node

/-- Puts a value under a dotted key of the table that a header has opened. -/
def put (header path : List String) (key : String) (datum : Datum) (root : Node) : Option Node :=
  descend false (fun dotted entries => do
    match ← putDotted path key datum (.table true dotted entries) with
    | .table _ _ entries => return entries
    | _ => none) header root

/-- Opens the table that a header names; one that exists only implicitly becomes explicit. -/
def openTable (path : List String) (key : String) (root : Node) : Option Node :=
  descend false (fun _ entries =>
    updateEntry key (fun
      | none => some emptyTable
      | some (.table true false inner) => some (.table false false inner)
      | some _ => none) entries) path root

/-- Adds another table to those that share a header. -/
def addTable (path : List String) (key : String) (root : Node) : Option Node :=
  descend false (fun _ entries =>
    updateEntry key (fun
      | none => some (.tables [emptyTable])
      | some (.tables items) => some (.tables (items ++ [emptyTable]))
      | some _ => none) entries) path root

mutual

def toDatum : Node → Datum
  | .value datum => datum
  | .table _ _ entries => .object (entriesToData entries)
  | .tables items => .list (itemsToData items)

def entriesToData : List (String × Node) → List (String × Datum)
  | [] => []
  | (key, node) :: rest => (key, node.toDatum) :: entriesToData rest

def itemsToData : List Node → List Datum
  | [] => []
  | node :: rest => node.toDatum :: itemsToData rest

end

end Node

end Televisor.Toml
