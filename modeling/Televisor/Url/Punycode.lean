import Televisor.Text.Search

namespace Televisor.Url.Punycode

/-! Punycode writes any label in ASCII: first its ASCII characters, then, behind a hyphen, where the
others go.  They are inserted in rising order, each told by its distance from the one before, as a
number of variable length whose thresholds follow a bias. -/

def digitOf (value : Nat) : Char :=
  if value < 26 then Char.ofNat ('a'.toNat + value) else Char.ofNat ('0'.toNat + (value - 26))

def valueOf? (c : Char) : Option Nat :=
  if c.isLower then some (c.toNat - 'a'.toNat)
  else if c.isUpper then some (c.toNat - 'A'.toNat)
  else if c.isDigit then some (c.toNat - '0'.toNat + 26)
  else none

def threshold (place bias : Nat) : Nat :=
  max 1 (min 26 (place - bias))

def scale (distance count : Nat) : Nat × Nat :=
  if 455 < distance then scale (distance / 35) (count + 36) else (distance, count)
termination_by distance
decreasing_by exact Nat.div_lt_self (by omega) (by omega)

/-- The bias after a distance, with `size` characters so far; the first distance counts less. -/
def adapted (distance size : Nat) (isFirst : Bool) : Nat :=
  let damped := if isFirst then distance / 700 else distance / 2
  let (distance, count) := scale (damped + damped / size) 0
  count + 36 * distance / (distance + 38)

def firstCode : Nat := 0x80

def firstBias : Nat := 72

def readDistance? (bias place weight total : Nat) : List Char → Option (Nat × List Char)
  | [] => none
  | c :: rest => do
    let value ← valueOf? c
    let total := total + value * weight
    let limit := threshold place bias
    if value < limit then return (total, rest)
    else readDistance? bias (place + 36) (weight * (36 - limit)) total rest

theorem readDistance?_length {bias place weight total distance : Nat} {text rest : List Char}
    (found : readDistance? bias place weight total text = some (distance, rest)) :
    rest.length < text.length := by
  induction text generalizing place weight total with
  | nil => simp [readDistance?] at found
  | cons c tail ih =>
      simp only [readDistance?, Option.bind_eq_bind, Option.bind_eq_some_iff] at found
      obtain ⟨value, _, found⟩ := found
      split at found
      · cases found
        simp
      · have shorter := ih found
        simp only [List.length_cons]
        omega

/-- Inserts the characters that the digits tell of; `last` is the code point inserted last, and
`start` where the next distance is counted from. -/
def insertAll? (label : List Char) (last start bias : Nat) (text : List Char) :
    Option (List Char) :=
  if text = [] then some label
  else
    match _found : readDistance? bias 36 1 0 text with
    | none => none
    | some (distance, rest) =>
      let size := label.length + 1
      let code := last + (start + distance) / size
      let place := (start + distance) % size
      if code.isValidChar then
        insertAll? (label.take place ++ Char.ofNat code :: label.drop place) code (place + 1)
          (adapted distance size (start = 0)) rest
      else none
termination_by text.length
decreasing_by exact readDistance?_length _found

def splitWritten (text : List Char) : List Char × List Char :=
  let digits := (text.reverse.takeWhile (· != '-')).reverse
  let front := text.take (text.length - digits.length - 1)
  if front.isEmpty then ([], text) else (front, digits)

def decode? (text : List Char) : Option (List Char) :=
  let (front, digits) := splitWritten text
  insertAll? front firstCode 0 firstBias digits

def writeDistance (bias place distance : Nat) : List Char :=
  let limit := threshold place bias
  if distance < limit then [digitOf distance]
  else
    digitOf (limit + (distance - limit) % (36 - limit)) ::
      writeDistance bias (place + 36) ((distance - limit) / (36 - limit))
termination_by distance
decreasing_by
  rename_i large
  have least : 1 ≤ threshold place bias := Nat.le_max_left _ _
  have greatest : threshold place bias ≤ 26 := by
    simp only [threshold]
    omega
  refine Nat.lt_of_le_of_lt (Nat.div_le_self _ _) ?_
  omega

structure Progress where
  distance : Nat
  bias : Nat
  written : Nat
  digits : List Char
deriving Repr, DecidableEq

def Progress.pass (ascii code : Nat) (progress : Progress) (c : Char) : Progress :=
  if c.toNat < code then { progress with distance := progress.distance + 1 }
  else if c.toNat = code then
    { distance := 0
      bias := adapted progress.distance (progress.written + 1) (progress.written = ascii)
      written := progress.written + 1
      digits := progress.digits ++ writeDistance progress.bias 36 progress.distance }
  else progress

/-- Writes all characters of each code point in turn; code points before `next` are done. -/
def writeCodes (label : List Char) (ascii next : Nat) (progress : Progress) :
    List Nat → List Char
  | [] => progress.digits
  | code :: codes =>
    let skipped := (code - next) * (progress.written + 1)
    let progress := { progress with distance := progress.distance + skipped }
    let progress := label.foldl (Progress.pass ascii code) progress
    writeCodes label ascii (code + 1) { progress with distance := progress.distance + 1 } codes

def encode (label : List Char) : List Char :=
  let front := label.filter (·.toNat < firstCode)
  let codes := ((label.map Char.toNat).filter (firstCode ≤ ·)).mergeSort.eraseDups
  let hyphen := if front.isEmpty then [] else ['-']
  front ++ hyphen ++
    writeCodes label front.length firstCode ⟨0, firstBias, front.length, []⟩ codes

end Televisor.Url.Punycode
