import Televisor.Data.Datum
import Televisor.Text.Hex

namespace Televisor.Toml

open Data

/-! The single words of TOML: numbers, truth values and dates. -/

/-- Characters of a word that is no text: a number, a date, a time or a name. -/
def isWordChar (c : Char) : Bool :=
  c.isAlphanum || c = '+' || c = '-' || c = '.' || c = '_' || c = ':'

/-- The digits of a group in which single underscores may stand between digits. -/
def plainDigits? (isDigit : Char → Bool) (text : List Char) : Option (List Char) :=
  let rec go (afterDigit : Bool) : List Char → Option (List Char)
    | [] => if afterDigit then some [] else none
    | '_' :: rest => if afterDigit then go false rest else none
    | c :: rest => if isDigit c then (go true rest).map (c :: ·) else none
  go false text

/-- Decimal digits that do not start with a needless zero. -/
def wholeDigits? (text : List Char) : Option (List Char) := do
  let digits ← plainDigits? Char.isDigit text
  match digits with
  | '0' :: _ :: _ => none
  | digits => return digits

def numberOf (radix : Nat) (digits : List Char) : Nat :=
  digits.foldl (fun n c => n * radix + (Text.hexValue? c).getD 0) 0

def splitSign : List Char → Bool × List Char
  | '-' :: rest => (true, rest)
  | '+' :: rest => (false, rest)
  | text => (false, text)

def radixNumber? (radix : Nat) (text : List Char) : Option Nat :=
  let isDigit (c : Char) : Bool := (Text.hexValue? c).any (· < radix)
  ((plainDigits? isDigit text).map (numberOf radix)).filter (· < Nat.pow 2 63)

def integer? (word : List Char) : Option Int :=
  match word with
  | '0' :: 'x' :: rest => (radixNumber? 16 rest).map Int.ofNat
  | '0' :: 'o' :: rest => (radixNumber? 8 rest).map Int.ofNat
  | '0' :: 'b' :: rest => (radixNumber? 2 rest).map Int.ofNat
  | word =>
    let (negative, text) := splitSign word
    match (wholeDigits? text).map (numberOf 10) with
    | none => none
    | some value =>
      if negative then if value ≤ Nat.pow 2 63 then some (-(value : Int)) else none
      else if value < Nat.pow 2 63 then some value else none

def isExponentMark (c : Char) : Bool :=
  c = 'e' || c = 'E'

def exponent? (text : List Char) : Option Int :=
  let (negative, text) := splitSign text
  (plainDigits? Char.isDigit text).map fun digits =>
    let value := numberOf 10 digits
    if negative then -(value : Int) else value

def decimal? (text : List Char) : Option Float := do
  let mantissa := text.takeWhile (!isExponentMark ·)
  let scientific := text.dropWhile (!isExponentMark ·)
  let whole ← wholeDigits? (mantissa.takeWhile (· != '.'))
  let fraction ←
    match mantissa.dropWhile (· != '.') with
    | [] => if scientific.isEmpty then none else some []
    | _ :: digits => plainDigits? Char.isDigit digits
  let exponent ←
    match scientific with
    | [] => some 0
    | _ :: digits => exponent? digits
  let scale := exponent - fraction.length
  let digits := numberOf 10 (whole ++ fraction)
  return Float.ofScientific digits (scale < 0) (min scale.natAbs 5000)

def float? (word : List Char) : Option Float :=
  let (negative, text) := splitSign word
  let value :=
    if text = "inf".toList then some (1.0 / 0.0)
    else if text = "nan".toList then some (0.0 / 0.0)
    else decimal? text
  value.map fun x => if negative then -x else x

def fixedDigits? (count : Nat) (text : List Char) : Option (Nat × List Char) :=
  let digits := text.take count
  if digits.length = count && digits.all Char.isDigit then
    some (numberOf 10 digits, text.drop count)
  else none

def skip? (c : Char) : List Char → Option (List Char)
  | first :: rest => if first = c then some rest else none
  | [] => none

def daysIn (year month : Nat) : Nat :=
  if month = 2 then if year % 4 = 0 && (year % 100 != 0 || year % 400 = 0) then 29 else 28
  else if [4, 6, 9, 11].contains month then 30
  else 31

def date? (text : List Char) : Option (List Char) := do
  let (year, rest) ← fixedDigits? 4 text
  let rest ← skip? '-' rest
  let (month, rest) ← fixedDigits? 2 rest
  let rest ← skip? '-' rest
  let (day, rest) ← fixedDigits? 2 rest
  if 1 ≤ month && month ≤ 12 && 1 ≤ day && day ≤ daysIn year month then return rest else none

def time? (text : List Char) : Option (List Char) := do
  let (hour, rest) ← fixedDigits? 2 text
  let rest ← skip? ':' rest
  let (minute, rest) ← fixedDigits? 2 rest
  let rest ← skip? ':' rest
  let (second, rest) ← fixedDigits? 2 rest
  if 23 < hour || 59 < minute || 60 < second then none
  else
    match rest with
    | '.' :: fraction =>
      if (fraction.takeWhile Char.isDigit).isEmpty then none
      else return fraction.dropWhile Char.isDigit
    | rest => return rest

/-- A distance from universal time, or nothing, at the end of a word. -/
def isOffset (text : List Char) : Bool :=
  let hoursAndMinutes (text : List Char) : Bool :=
    match fixedDigits? 2 text with
    | some (hour, ':' :: rest) =>
      match fixedDigits? 2 rest with
      | some (minute, []) => hour ≤ 23 && minute ≤ 59
      | _ => false
    | _ => false
  match text with
  | [] => true
  | ['Z'] => true
  | ['z'] => true
  | '+' :: rest => hoursAndMinutes rest
  | '-' :: rest => hoursAndMinutes rest
  | _ => false

def isTimeAndOffset (text : List Char) : Bool :=
  (time? text).any isOffset

def isMoment (word : List Char) : Bool :=
  match date? word with
  | some [] => true
  | some ('T' :: rest) => isTimeAndOffset rest
  | some ('t' :: rest) => isTimeAndOffset rest
  | some _ => false
  | none => time? word == some []

/-- Dates are objects with one field that no setting is named after. -/
def moment (text : List Char) : Datum :=
  .object [("$moment", .text (String.ofList text))]

def scalar? (word : List Char) : Option Datum :=
  if word = "true".toList then some (.bool true)
  else if word = "false".toList then some (.bool false)
  else if isMoment word then some (moment word)
  else
    match float? word with
    | some x => some (.float x)
    | none => (integer? word).map .int

/-- Reads a word, or a date and a time with a blank between them. -/
def readScalar? (text : List Char) : Option (Datum × List Char) :=
  let word := text.takeWhile isWordChar
  let rest := text.dropWhile isWordChar
  match date? word, rest with
  | some [], ' ' :: after =>
    let time := after.takeWhile isWordChar
    if isTimeAndOffset time then some (moment (word ++ ' ' :: time), after.dropWhile isWordChar)
    else some (moment word, rest)
  | _, _ => (scalar? word).map (·, rest)

end Televisor.Toml
