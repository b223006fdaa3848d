import Televisor.Text.Hex
import Televisor.Text.Number
import Televisor.Text.Search
import Televisor.Url.Encoding

namespace Televisor.Url

open Text

/-! Internet addresses as hosts: reading every notation URLs allow, writing one. -/

abbrev Words := List Nat

inductive Address where
  | v4 (value : Nat)
  | v6 (words : Words)
deriving Repr, DecidableEq

def v4Text (value : Nat) : String :=
  String.intercalate "." ([24, 16, 8, 0].map fun shift => toString (value / Nat.pow 2 shift % 256))

/-- The start and length of the first longest run of zeros among the words; `run` zeros precede the
current place. -/
def longestZeros (place run : Nat) (best : Nat × Nat) : Words → Nat × Nat
  | [] => if best.2 < run then (place - run, run) else best
  | word :: rest =>
    if word = 0 then longestZeros (place + 1) (run + 1) best rest
    else longestZeros (place + 1) 0 (if best.2 < run then (place - run, run) else best) rest

def wordsText (words : Words) : String :=
  String.intercalate ":" (words.map fun word => String.ofList (hexNumber word))

/-- The longest run of at least two zero words is left out. -/
def v6Text (words : Words) : String :=
  let (start, length) := longestZeros 0 0 (0, 0) words
  if length < 2 then wordsText words
  else wordsText (words.take start) ++ "::" ++ wordsText (words.drop (start + length))

def Address.text : Address → String
  | .v4 value => v4Text value
  | .v6 words => v6Text words

/-- An address and a port, as they are written together. -/
def Address.withPort (address : Address) (port : Nat) : String :=
  match address with
  | .v4 value => v4Text value ++ ":" ++ toString port
  | .v6 words => "[" ++ v6Text words ++ "]:" ++ toString port

inductive Part where
  | number (value : Nat)
  | tooLarge
  | malformed
deriving Repr, DecidableEq

def radixValue? (radix : Nat) (acc : Nat) : List Char → Option Nat
  | [] => some acc
  | c :: rest =>
    match hexValue? c with
    | some value => if value < radix then radixValue? radix (acc * radix + value) rest else none
    | none => none

/-- A part is hexadecimal after `0x`, octal after `0` and decimal otherwise. -/
def readPart (text : List Char) : Part :=
  let (radix, digits) :=
    match text with
    | '0' :: 'x' :: rest => (16, rest)
    | '0' :: 'X' :: rest => (16, rest)
    | '0' :: second :: rest => (8, second :: rest)
    | text => (10, text)
  if text.isEmpty then .malformed
  else
    match radixValue? radix 0 digits with
    | some value => if value < Nat.pow 2 32 then .number value else .tooLarge
    | none => .malformed

/-- Whether a host name has to be read as a dotted address: its last part is a number. -/
def endsInNumber (host : List Char) : Bool :=
  let parts := (splitAll '.' host).reverse
  let last :=
    match parts with
    | [] :: last :: _ => some last
    | [[]] => none
    | last :: _ => some last
    | [] => none
  match last with
  | some last => (!last.isEmpty && last.all Char.isDigit) || readPart last != .malformed
  | none => false

/-- Puts the parts of a dotted address together; the last one fills all bytes that are left. -/
def joinParts? (parts : List Nat) : Option Nat :=
  match parts.reverse with
  | [] => none
  | last :: front =>
    let front := front.reverse
    if Nat.pow 256 (4 - front.length) ≤ last then none
    else if front.any (255 < ·) then none
    else
      some (front.zipIdx.foldr (fun (part, place) sum => part * Nat.pow 256 (3 - place) + sum) last)

def readV4? (host : List Char) : Option Nat :=
  let parts := splitAll '.' host
  let parts := if parts.getLast? = some [] then parts.dropLast else parts
  if 4 < parts.length then none
  else
    (parts.mapM fun part =>
      match readPart part with
      | .number value => some value
      | _ => none).bind joinParts?

/-- A word of an IPv6 address: up to four digits. -/
def readWord? (text : List Char) : Option Nat :=
  if text.isEmpty || 4 < text.length then none else radixValue? 16 0 text

def readByte? (text : List Char) : Option Nat :=
  if text.isEmpty || (text.head? = some '0' && text.length != 1) then none
  else (digitsValue? 0 text).filter (· < 256)

def readDotted? (text : List Char) : Option Words :=
  match (splitAll '.' text).mapM readByte? with
  | some [a, b, c, d] => some [a * 256 + b, c * 256 + d]
  | _ => none

/-- Words between colons, the last of which may be a dotted address if `dotted` allows it. -/
def readWords? (dotted : Bool) (text : List Char) : Option Words :=
  if text.isEmpty then some []
  else
    let pieces := splitAll ':' text
    match pieces.reverse with
    | last :: front =>
      if dotted && last.contains '.' then do
        let front ← front.reverse.mapM readWord?
        let tail ← readDotted? last
        return front ++ tail
      else pieces.mapM readWord?
    | [] => none

/-- Eight words, or fewer around one double colon, which stands for at least one zero word. -/
def readV6? (text : List Char) : Option Words :=
  match splitAtFirst? "::".toList text with
  | none => (readWords? true text).filter (·.length = 8)
  | some (front, back) => do
    let front ← readWords? false front
    let back ← readWords? true back
    if front.length + back.length < 8 then
      return front ++ List.replicate (8 - front.length - back.length) 0 ++ back
    else none

def plainV4? (text : List Char) : Option Nat :=
  (readDotted? text).map fun words => (words.getD 0 0) * 65536 + words.getD 1 0

/-- An address as it is written outside URLs. -/
def Address.ofText? (text : List Char) : Option Address :=
  match plainV4? text with
  | some value => some (.v4 value)
  | none => (readV6? text).map .v6

end Televisor.Url
