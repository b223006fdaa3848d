import Televisor.Text.Search
import Televisor.Text.Slice

namespace Televisor.Markup

open Text

/-! Finding elements and attributes in small, flat XML documents without building a tree.  A
position in a text is the rest of the text from there on. -/

def openWord (tag : List Char) : List Char :=
  '<' :: tag

def closeWord (tag : List Char) : List Char :=
  '<' :: '/' :: tag ++ ['>']

def afterBracket? (text : List Char) : Option (List Char) :=
  after? ['>'] text

/-- The rest of the text after the `>` of the next opening tag `<tag>` or `<tag …>`.  Once the name
is followed by a blank the tag has been found, even if it is never closed. -/
def afterOpenTag? (tag : List Char) (text : List Char) : Option (List Char) :=
  match _found : after? (openWord tag) text with
  | none => none
  | some [] => none
  | some (c :: rest) =>
    if c = '>' then some rest
    else if isBlank c then afterBracket? (c :: rest)
    else afterOpenTag? tag (c :: rest)
termination_by text.length
decreasing_by
  have bound := after?_length_le _found
  simp only [openWord, List.length_cons] at bound ⊢
  omega

def elementText? (text tag : List Char) : Option (List Char) := do
  let inner ← afterOpenTag? tag text
  let (inside, _) ← splitAtFirst? (closeWord tag) inner
  return inside

theorem after?_length_lt {word text rest : List Char} (nonempty : word ≠ [])
    (found : after? word text = some rest) : rest.length < text.length := by
  have bound := after?_length_le found
  have positive := List.length_pos_iff.mpr nonempty
  omega

theorem afterOpenTag?_length_lt {tag text rest : List Char}
    (found : afterOpenTag? tag text = some rest) : rest.length < text.length := by
  fun_induction afterOpenTag? tag text with
  | case1 => contradiction
  | case2 => contradiction
  | case3 text tail match_ =>
      have bound := after?_length_lt (by simp [openWord]) match_
      cases found
      simp only [List.length_cons] at bound
      omega
  | case4 text c tail match_ notBracket blank =>
      have bound := after?_length_lt (by simp [openWord]) match_
      have inner := after?_length_lt (by simp) found
      omega
  | case5 text c tail match_ notBracket notBlank ih =>
      have bound := after?_length_lt (by simp [openWord]) match_
      have inner := ih found
      omega

theorem splitAtFirst?_length_lt {word text before rest : List Char} (nonempty : word ≠ [])
    (found : splitAtFirst? word text = some (before, rest)) : rest.length < text.length := by
  simp only [splitAtFirst?, Option.map_eq_some_iff] at found
  obtain ⟨_, located, same⟩ := found
  cases same
  exact after?_length_lt nonempty located

/-- The texts of all elements with that tag.  An element ends at the next closing tag and the search
goes on after it; an element that is never closed ends the search. -/
def blocks (text tag : List Char) : List (List Char) :=
  match _opened : afterOpenTag? tag text with
  | none => []
  | some inner =>
    match _closed : splitAtFirst? (closeWord tag) inner with
    | none => []
    | some (inside, rest) => inside :: blocks rest tag
termination_by text.length
decreasing_by
  have opening := afterOpenTag?_length_lt _opened
  have closing := splitAtFirst?_length_lt (by simp [closeWord]) _closed
  omega

/-- The attributes of every element `<tag …>` whose name is followed by one space, without the
slashes before the `>`. -/
def emptyElements (text tag : List Char) : List (List Char) :=
  match _found : after? (openWord tag ++ [' ']) text with
  | none => []
  | some rest =>
    if rest.contains '>' then
      trimEnd '/' (rest.takeWhile (· != '>')) :: emptyElements (rest.dropWhile (· != '>')) tag
    else []
termination_by text.length
decreasing_by
  have bound := after?_length_lt (by simp) _found
  have shorter := (List.dropWhile_sublist (l := rest) (· != '>')).length_le
  omega

/-- The character before a position, after passing over `text`. -/
def lastOr (before : Option Char) (text : List Char) : Option Char :=
  match text.getLast? with
  | some c => some c
  | none => before

/-- Looks for `word` where it stands first or after a blank; `word` ends with a quote, and a value
that does not count is passed over up to its closing quote. -/
def attributeFrom? (word : List Char) (before : Option Char) (text : List Char) :
    Option (List Char) :=
  match text with
  | [] => none
  | c :: rest =>
    match _found : behind? word (c :: rest) with
    | none => attributeFrom? word (some c) rest
    | some value =>
      if _shorter : value.length < (c :: rest).length then
        if value.contains '"' then
          let inside := value.takeWhile (· != '"')
          if before.all isBlank then some inside
          else
            attributeFrom? word (lastOr (some '"') inside) (value.dropWhile (· != '"'))
        else none
      else none
termination_by text.length
decreasing_by
  · simp
  · have shorter := (List.dropWhile_sublist (l := value) (· != '"')).length_le
    omega

def attribute? (attributes name : List Char) : Option (List Char) :=
  attributeFrom? (name ++ ['=', '"']) none attributes

/-- The byte offset just past the `>` of the next opening tag at or after the offset `start`. -/
def openTagEnd? (text tag : List Char) (start : Nat) : Option Nat := do
  let rest ← dropBytes? start text
  let after ← afterOpenTag? tag rest
  return utf8Length text - utf8Length after

end Televisor.Markup
