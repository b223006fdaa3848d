import Televisor.Text.Search

namespace Televisor.Markup

open Text

/-! Escaped characters of XML. -/

/-- The characters that are escaped in text, each with its entity.  The ampersand comes first where
texts are escaped and last where they are read back. -/
def entities : List (Char × String) :=
  [('<', "&lt;"), ('>', "&gt;"), ('"', "&quot;"), ('\'', "&apos;"), ('&', "&amp;")]

/-- Replaces the five entities one after another, the ampersand last. -/
def unescape (text : List Char) : List Char :=
  entities.foldl (fun text entity => replaceAll entity.2.toList [entity.1] text) text

def escapeChar (c : Char) : List Char :=
  match entities.find? (·.1 == c) with
  | some entity => entity.2.toList
  | none => [c]

def escape (text : List Char) : List Char :=
  text.flatMap escapeChar

end Televisor.Markup
