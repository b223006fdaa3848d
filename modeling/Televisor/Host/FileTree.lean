import Televisor.Text.Utf8
import Televisor.Url.Encoding

namespace Televisor.Host

/-! The files below the working directory, and what can be done with them. -/

inductive Entry where
  | file (content : List UInt8)
  | directory
deriving Repr, DecidableEq

inductive Problem where
  | notFound
  | notDirectory
  | alreadyExists
  | isDirectory
  | nameTooLong
  | badName
deriving Repr, DecidableEq

def Problem.message : Problem → String
  | .notFound => "No such file or directory (os error 2)"
  | .notDirectory => "Not a directory (os error 20)"
  | .alreadyExists => "File exists (os error 17)"
  | .isDirectory => "Is a directory (os error 21)"
  | .nameTooLong => "File name too long (os error 36)"
  | .badName => "file name contained an unexpected NUL byte"

/-- The names on the way from the working directory to an entry. -/
abbrev Names := List String

structure FileTree where
  entries : List (Names × Entry)
deriving Repr, DecidableEq

/-- Where a path leads: to an entry, or to a free name in a directory. -/
inductive Place where
  | found (names : Names) (entry : Entry)
  | vacant (names : Names)
deriving Repr, DecidableEq

/-- The steps of a path; a last empty step asks for a directory. -/
def steps (path : String) : List String :=
  (Url.splitAll '/' path.toList).map String.ofList

def plainSteps (path : String) : List String :=
  (steps path).filter fun step => step != "" && step != "."

namespace FileTree

def empty : FileTree := ⟨[]⟩

def lookup? (tree : FileTree) (names : Names) : Option Entry :=
  if names = [] then some .directory
  else (tree.entries.find? (·.1 == names)).map (·.2)

def insert (tree : FileTree) (names : Names) (entry : Entry) : FileTree :=
  ⟨tree.entries.filter (·.1 != names) ++ [(names, entry)]⟩

/-- Follows the steps from a directory.  No step leads above the working directory. -/
def walk (tree : FileTree) (names : Names) : List String → Except Problem Place
  | [] => .ok (.found names .directory)
  | step :: rest =>
    if step = "" || step = "." then walk tree names rest
    else if step = ".." then walk tree names.dropLast rest
    else if step.contains '\x00' then .error .badName
    else if 255 < Text.utf8Length step.toList then .error .nameTooLong
    else
      match tree.lookup? (names ++ [step]) with
      | some .directory => walk tree (names ++ [step]) rest
      | some (.file content) =>
        if rest = [] then .ok (.found (names ++ [step]) (.file content)) else .error .notDirectory
      | none => if rest.all (· == "") then .ok (.vacant (names ++ [step])) else .error .notFound

def locate (tree : FileTree) (path : List String) : Except Problem Place :=
  if path = [""] then .error .notFound else tree.walk [] path

def exists? (tree : FileTree) (path : String) : Bool :=
  match tree.locate (steps path) with
  | .ok (.found ..) => true
  | _ => false

def read? (tree : FileTree) (path : String) : Option (List UInt8) :=
  match tree.locate (steps path) with
  | .ok (.found _ (.file content)) => some content
  | _ => none

def isDirectory (tree : FileTree) (path : List String) : Bool :=
  match tree.walk [] path with
  | .ok (.found _ .directory) => true
  | _ => false

def makeDirectory (tree : FileTree) (path : List String) : Except Problem FileTree :=
  match tree.walk [] path with
  | .ok (.vacant names) => .ok (tree.insert names .directory)
  | .ok (.found ..) => .error .alreadyExists
  | .error problem => .error problem

def makeDirectories (tree : FileTree) (path : List String) : Except Problem FileTree :=
  match tree.makeDirectory path with
  | .ok tree => .ok tree
  | .error problem =>
    if tree.isDirectory path then .ok tree
    else if problem = .notFound && path ≠ [] then do
      let tree ← makeDirectories tree path.dropLast
      match tree.makeDirectory path with
      | .ok tree => return tree
      | .error problem => if tree.isDirectory path then return tree else throw problem
    else .error problem
termination_by path.length
decreasing_by
  rename_i missing
  simp only [ne_eq, Bool.and_eq_true, decide_eq_true_eq] at missing
  have positive := List.length_pos_iff.mpr missing.2
  simp only [List.length_dropLast]
  omega

/-- A path without the empty steps at its end. -/
def dropEmptyEnd (path : List String) : List String :=
  (path.reverse.dropWhile (· == "")).reverse

/-- Writes a file anew; the directory it is in must exist, and the path must not ask for a
directory. -/
def write (tree : FileTree) (path : String) (content : List UInt8) : Except Problem FileTree :=
  let named := dropEmptyEnd (steps path)
  match tree.locate (if named = [] then [""] else named) with
  | .error problem => .error problem
  | .ok (.found _ .directory) => .error .isDirectory
  | .ok (.found names (.file _)) => finish names
  | .ok (.vacant names) => finish names
where
  finish (names : Names) : Except Problem FileTree :=
    if (steps path).getLast? = some "" then .error .isDirectory
    else .ok (tree.insert names (.file content))

/-- Adds an entry with all directories above it, as a tree is first laid out. -/
def place (tree : FileTree) (path : String) (entry : Entry) : FileTree :=
  let names := plainSteps path
  let above := (List.range names.length).map (names.take ·)
  let tree := above.foldl (fun tree names =>
    if (tree.lookup? names).isSome then tree else tree.insert names .directory) tree
  tree.insert names entry

def files (tree : FileTree) : List (String × List UInt8) :=
  tree.entries.filterMap fun (names, entry) =>
    match entry with
    | .file content => some (String.intercalate "/" names, content)
    | .directory => none

end FileTree

end Televisor.Host
