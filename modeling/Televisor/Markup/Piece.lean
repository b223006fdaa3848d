import Televisor.Text.Search

namespace Televisor.Markup

open Text

/-! What documents are written of: texts and tags.  Elements need not be balanced for them to be found,
so a document is a list and not a tree. -/

def isNameChar (c : Char) : Bool :=
  c != '<' && c != '>' && c != '/' && !isBlank c

@[ext]
structure Name where
  letters : List Char
  nonempty : letters ≠ []
  solid : letters.all isNameChar
deriving DecidableEq

/-- What stands between the name and the closing bracket of an opening tag.  An element with
attributes that is empty has a slash at their end. -/
structure Attributes where
  written : List Char
  inside : '<' ∉ written ∧ '>' ∉ written
  apart : written.head?.all isBlank

def Attributes.none : Attributes :=
  ⟨[], by decide, rfl⟩

inductive Piece where
  | text (content : List Char) (plain : '<' ∉ content)
  | opening (name : Name) (attributes : Attributes)
  /-- An empty element without attributes. -/
  | empty (name : Name)
  | closing (name : Name)

namespace Piece

def render : Piece → List Char
  | .text content _ => content
  | .opening name attributes => '<' :: (name.letters ++ attributes.written) ++ ['>']
  | .empty name => '<' :: (name.letters ++ ['/']) ++ ['>']
  | .closing name => '<' :: '/' :: name.letters ++ ['>']

def name? : Piece → Option Name
  | .text _ _ => none
  | .opening name _ => some name
  | .empty name => some name
  | .closing name => some name

end Piece

def render (pieces : List Piece) : List Char :=
  pieces.flatMap Piece.render

end Televisor.Markup
