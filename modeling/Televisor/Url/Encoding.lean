import Televisor.Text.Hex
import Televisor.Text.Utf8

namespace Televisor.Url

open Text

/-! Percent-encoding and the sets of characters each part of a URL encodes. -/

/-- Control characters and everything outside ASCII are encoded in every part. -/
def isControl (c : Char) : Bool :=
  c.toNat < 0x20 || 0x7F ≤ c.toNat

def isFragmentUnsafe (c : Char) : Bool :=
  isControl c || [' ', '"', '<', '>', Char.ofNat 0x60].contains c

def isQueryUnsafe (c : Char) : Bool :=
  isControl c || [' ', '"', '#', '<', '>'].contains c

def isSpecialQueryUnsafe (c : Char) : Bool :=
  isQueryUnsafe c || c = '\''

def isPathUnsafe (c : Char) : Bool :=
  isFragmentUnsafe c || ['#', '?', '\x7b', '\x7d'].contains c

def isUserUnsafe (c : Char) : Bool :=
  isPathUnsafe c || ['/', ':', ';', '=', '@', '[', '\\', ']', '^', '|'].contains c

def encodeByte (byte : UInt8) : List Char :=
  '%' :: (hexByte byte).map Char.toUpper

def percentEncode (isUnsafe : Char → Bool) (text : List Char) : List Char :=
  text.flatMap fun c => if isUnsafe c then (String.utf8EncodeChar c).flatMap encodeByte else [c]

/-- The bytes a text stands for; a percent sign without two digits stands for itself. -/
def percentDecode : List UInt8 → List UInt8
  | 0x25 :: high :: low :: rest =>
    match hexValue? (Char.ofNat high.toNat), hexValue? (Char.ofNat low.toNat) with
    | some h, some l => UInt8.ofNat (h * 16 + l) :: percentDecode rest
    | _, _ => 0x25 :: percentDecode (high :: low :: rest)
  | byte :: rest => byte :: percentDecode rest
  | [] => []

/-- The name and value pairs of a query: plus signs are blanks, ill-formed bytes are replaced. -/
def formText (text : List Char) : String :=
  let spaced := text.map fun c => if c = '+' then ' ' else c
  textOfUtf8Lossy (percentDecode (utf8Bytes spaced))

def splitAll (separator : Char) (text : List Char) : List (List Char) :=
  text.foldr (fun c parts =>
    if c = separator then [] :: parts
    else
      match parts with
      | part :: rest => (c :: part) :: rest
      | [] => [[c]]) [[]]

/-- The pairs of a form-encoded query, in order; empty pieces are skipped. -/
def formPairs (query : List Char) : List (String × String) :=
  ((splitAll '&' query).filter (!·.isEmpty)).map fun piece =>
    (formText (piece.takeWhile (· != '=')), formText ((piece.dropWhile (· != '=')).drop 1))

end Televisor.Url
