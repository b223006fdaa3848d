import Televisor.Decimal.Shortest

namespace Televisor.Decimal

/-! How a decimal number is laid out as text, and the layouts this program writes. -/

/-- Decimal exponents of the leading digit in the half-open range `positional` are written without
an exponent, all are if it is absent; `point` asks for a decimal point in every positional text;
`tie` says which of two equally near shortest decimals is written. -/
structure Layout where
  positional : Option (Int × Int)
  point : Bool
  tie : Tie
  nan : String
  infinity : String

def zeros (count : Nat) : List Char :=
  List.replicate count '0'

/-- The digits with the point put `scale` places from their end. -/
def positionalDigits (point : Bool) (digits : List Char) (scale : Int) : List Char :=
  if 0 ≤ scale then
    digits ++ zeros scale.toNat ++ (if point then ['.', '0'] else [])
  else
    let places := (-scale).toNat
    let padded := zeros (places + 1 - digits.length) ++ digits
    padded.take (padded.length - places) ++ '.' :: padded.drop (padded.length - places)

/-- One digit, the others behind a point, and a signed exponent. -/
def scientificDigits (digits : List Char) (lead : Int) : List Char :=
  let mantissa :=
    match digits with
    | first :: second :: rest => first :: '.' :: second :: rest
    | digits => digits
  let sign := if lead < 0 then '-' else '+'
  mantissa ++ 'e' :: sign :: Nat.toDigits 10 lead.natAbs

def Layout.digits (layout : Layout) (value : Nat) (scale : Int) : List Char :=
  let digits := Nat.toDigits 10 value
  let lead := scale + digits.length - 1
  let fits :=
    match layout.positional with
    | none => true
    | some (least, bound) => decide (least ≤ lead ∧ lead < bound)
  if value = 0 then positionalDigits layout.point ['0'] 0
  else if fits then positionalDigits layout.point digits scale
  else scientificDigits digits lead

def Layout.render (layout : Layout) (reach : Nat) (x : Binary) : String :=
  match x with
  | .nan => layout.nan
  | .infinite negative => (if negative then "-" else "") ++ layout.infinity
  | .finite negative mantissa exponent narrowBelow =>
    let (value, scale) := shortest layout.tie reach mantissa exponent narrowBelow
    (if negative then "-" else "") ++ String.ofList (layout.digits value scale)

/-- Plain text: never an exponent, no point after a whole number, and a tie goes up. -/
def plain : Layout := ⟨none, false, .up, "NaN", "inf"⟩

/-- In JSON the exponent starts below a millionth and from ten trillion on, and a tie goes to the
even neighbour. -/
def jsonSingle : Layout := ⟨some (-6, 13), true, .even, "null", "null"⟩

/-- Of doubles it starts below a hundred thousandth and from ten quadrillion on. -/
def jsonDouble : Layout := ⟨some (-5, 16), true, .even, "null", "null"⟩

def doubleJson (x : Float) : String :=
  jsonDouble.render 350 (.ofDouble x)

end Televisor.Decimal
