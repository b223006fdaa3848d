import Televisor.Text.Utf8

namespace Televisor.Text

/-! Parts of a text by byte offsets.  An offset that lies beyond the text, or inside a character, begins
and ends no part. -/

/-- The rest of a text from a byte offset on, if the offset lies between two characters. -/
def dropBytes? (offset : Nat) : List Char → Option (List Char)
  | [] => if offset = 0 then some [] else none
  | c :: rest =>
    if offset = 0 then some (c :: rest)
    else if offset < c.utf8Size then none
    else dropBytes? (offset - c.utf8Size) rest

/-- The first bytes of a text, if they are whole characters. -/
def takeBytes? (size : Nat) : List Char → Option (List Char)
  | [] => if size = 0 then some [] else none
  | c :: rest =>
    if size = 0 then some []
    else if size < c.utf8Size then none
    else (takeBytes? (size - c.utf8Size) rest).map (c :: ·)

def sliceBytes? (start stop : Nat) (text : List Char) : Option (List Char) :=
  if start ≤ stop then (dropBytes? start text).bind (takeBytes? (stop - start)) else none

/-- The byte offset of the first place where `word` stands. -/
def offsetOf? (word : List Char) : List Char → Option Nat
  | [] => if word.isEmpty then some 0 else none
  | c :: rest =>
    if word.isPrefixOf (c :: rest) then some 0
    else (offsetOf? word rest).map (c.utf8Size + ·)

/-- The offset lies between two characters of the text, or at one of its ends. -/
def IsBoundary (text : List Char) (offset : Nat) : Prop :=
  ∃ before after, text = before ++ after ∧ offset = utf8Length before

end Televisor.Text
