import Televisor.Text.Hex

namespace Televisor.Json

/-! The words of JSON text. -/

/-- A number is an integer of at most 64 bits or a double. -/
inductive Number where
  | int (value : Int)
  | float (value : Float)
deriving Repr

/-- `malformed` ends the words where the text is not JSON. -/
inductive Token where
  | openObject
  | closeObject
  | openList
  | closeList
  | colon
  | comma
  | null
  | bool (value : Bool)
  | number (value : Number)
  | text (value : String)
  | malformed
deriving Repr

def codeUnit? : List Char → Option (Nat × List Char)
  | a :: b :: c :: d :: rest => do
    let a ← Text.hexValue? a
    let b ← Text.hexValue? b
    let c ← Text.hexValue? c
    let d ← Text.hexValue? d
    return (a * 4096 + b * 256 + c * 16 + d, rest)
  | _ => none

/-- The character an escape stands for, after its backslash; a surrogate needs its partner. -/
def escape? : List Char → Option (Char × List Char)
  | '"' :: rest => some ('"', rest)
  | '\\' :: rest => some ('\\', rest)
  | '/' :: rest => some ('/', rest)
  | 'b' :: rest => some (Char.ofNat 8, rest)
  | 'f' :: rest => some (Char.ofNat 12, rest)
  | 'n' :: rest => some ('\n', rest)
  | 'r' :: rest => some ('\r', rest)
  | 't' :: rest => some ('\t', rest)
  | 'u' :: rest => do
    let (high, rest) ← codeUnit? rest
    if high < 0xD800 || 0xDFFF < high then return (Char.ofNat high, rest)
    else if 0xDBFF < high then none
    else
      match rest with
      | '\\' :: 'u' :: rest =>
        let (low, rest) ← codeUnit? rest
        if low < 0xDC00 || 0xDFFF < low then none
        else return (Char.ofNat (0x10000 + (high - 0xD800) * 1024 + (low - 0xDC00)), rest)
      | _ => none
  | _ => none

/-- The rest of a text after its opening quote; `fuel` is at least the number of characters. -/
def readText (fuel : Nat) (acc : List Char) (text : List Char) : Option (String × List Char) :=
  match fuel, text with
  | 0, _ => none
  | _, [] => none
  | fuel + 1, c :: rest =>
    if c = '"' then some (String.ofList acc.reverse, rest)
    else if c = '\\' then
      match escape? rest with
      | some (c, rest) => readText fuel (c :: acc) rest
      | none => none
    else if c.toNat < 0x20 then none
    else readText fuel (c :: acc) rest

def spanDigits (text : List Char) : List Char × List Char :=
  text.span (·.isDigit)

def digitValue (c : Char) : Nat :=
  c.toNat - 0x30

/-- Takes digits into a number as long as it stays within 64 bits, and counts the others. -/
def significand : (acc : Nat) → List Char → Nat × Nat
  | acc, [] => (acc, 0)
  | acc, c :: rest =>
    if acc * 10 + digitValue c < Nat.pow 2 64 then significand (acc * 10 + digitValue c) rest
    else (acc, rest.length + 1)

/-- A double from a significand and a power of ten, in at most one multiplication, or in divisions
by at most `1e308` each; nothing if it overflows. -/
def scaled? (value : Nat) (exponent : Int) : Option Float :=
  let x := Float.ofNat value
  if 0 ≤ exponent then
    if exponent ≤ 308 then
      let y := x * Float.ofScientific 1 false exponent.toNat
      if y.isInf then none else some y
    else if value = 0 then some x
    else none
  else if -308 ≤ exponent then some (x / Float.ofScientific 1 false (-exponent).toNat)
  else
    let y := x / Float.ofScientific 1 false 308
    if -616 ≤ exponent then some (y / Float.ofScientific 1 false (-exponent - 308).toNat)
    else some 0.0

def readExponent? (value : Nat) (exponent : Int) (text : List Char) : Option (Float × List Char) :=
  let (negative, text) :=
    match text with
    | '-' :: rest => (true, rest)
    | '+' :: rest => (false, rest)
    | text => (false, text)
  match spanDigits text with
  | ([], _) => none
  | (digits, rest) =>
    let written := digits.foldl (fun n c => n * 10 + digitValue c) 0
    if Nat.pow 2 31 ≤ written then
      if value = 0 || negative then some (0.0, rest) else none
    else
      let total := if negative then exponent - written else exponent + written
      (scaled? value total).map (·, rest)

def readFraction? (value : Nat) (dropped : Nat) (text : List Char) : Option (Float × List Char) :=
  match text with
  | '.' :: text =>
    match spanDigits text with
    | ([], _) => none
    | (digits, rest) =>
      let (value, skipped) := significand value digits
      let exponent : Int := (dropped : Int) - ((digits.length - skipped : Nat) : Int)
      match rest with
      | 'e' :: rest => readExponent? value exponent rest
      | 'E' :: rest => readExponent? value exponent rest
      | rest => (scaled? value exponent).map (·, rest)
  | 'e' :: rest => readExponent? value dropped rest
  | 'E' :: rest => readExponent? value dropped rest
  | rest => (scaled? value dropped).map (·, rest)

/-- Whether the digits before the point are followed by neither point nor exponent. -/
def endsInteger : List Char → Bool
  | '.' :: _ => false
  | 'e' :: _ => false
  | 'E' :: _ => false
  | _ => true

def readNumber? (negative : Bool) (text : List Char) : Option (Number × List Char) :=
  match spanDigits text with
  | ([], _) => none
  | ('0' :: _ :: _, _) => none
  | (digits, rest) =>
    let (value, dropped) := significand 0 digits
    if endsInteger rest && dropped = 0 && !(negative && (value = 0 || Nat.pow 2 63 < value)) then
      some (.int (if negative then -(value : Int) else value), rest)
    else if endsInteger rest && dropped = 0 then
      some (.float (-(Float.ofNat value)), rest)
    else
      (readFraction? value dropped rest).map fun (x, rest) =>
        (.float (if negative then -x else x), rest)

def isSpace (c : Char) : Bool :=
  c = ' ' || c = '\n' || c = '\t' || c = '\r'

/-- The first word of a text that starts with no blank, and the text after it. -/
def readToken? : List Char → Option (Token × List Char)
  | '\x7b' :: rest => some (.openObject, rest)
  | '\x7d' :: rest => some (.closeObject, rest)
  | '[' :: rest => some (.openList, rest)
  | ']' :: rest => some (.closeList, rest)
  | ':' :: rest => some (.colon, rest)
  | ',' :: rest => some (.comma, rest)
  | 'n' :: 'u' :: 'l' :: 'l' :: rest => some (.null, rest)
  | 't' :: 'r' :: 'u' :: 'e' :: rest => some (.bool true, rest)
  | 'f' :: 'a' :: 'l' :: 's' :: 'e' :: rest => some (.bool false, rest)
  | '"' :: rest => (readText (rest.length + 1) [] rest).map fun (text, rest) => (.text text, rest)
  | '-' :: rest => (readNumber? true rest).map fun (n, rest) => (.number n, rest)
  | text => (readNumber? false text).map fun (n, rest) => (.number n, rest)

/-- The words of a text of at most `fuel` characters, up to the first that is not JSON. -/
def tokensFrom (fuel : Nat) (acc : List Token) (text : List Char) : List Token :=
  match fuel with
  | 0 => acc.reverse
  | fuel + 1 =>
    match text.dropWhile isSpace with
    | [] => acc.reverse
    | text =>
      match readToken? text with
      | some (token, rest) => tokensFrom fuel (token :: acc) rest
      | none => (.malformed :: acc).reverse

def tokens (text : String) : List Token :=
  let characters := text.toList
  tokensFrom (characters.length + 1) [] characters

end Televisor.Json
