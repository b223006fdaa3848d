import Televisor.Decimal.Binary

namespace Televisor.Decimal

/-! The fewest decimal digits that read back as a given binary value.

The reals that round to `mantissa * 2 ^ exponent` form an interval.  The decimal grids of step
`10 ^ scale` are tried from coarse to fine; the first that has a point in the interval wins, and of
two points the nearer.  Two points may be equally near: 177887.875 in single precision lies halfway
between 177887.87 and 177887.88, which both read back. -/

inductive Tie where
  | up
  | even
deriving Repr, DecidableEq

/-- The value and the interval around it in quarters of the last binary place; the ends belong to
the interval iff `closed`. -/
structure Interval where
  value : Nat
  low : Nat
  high : Nat
  closed : Bool
deriving Repr

def Interval.ofMantissa (mantissa : Nat) (narrowBelow : Bool) : Interval where
  value := 4 * mantissa
  low := if narrowBelow then 4 * mantissa - 1 else 4 * mantissa - 2
  high := 4 * mantissa + 2
  closed := mantissa % 2 == 0

/-- Whether the point lies in the interval, both given on a common scale. -/
def Interval.holds (interval : Interval) (factor point : Nat) : Bool :=
  let low := interval.low * factor
  let high := interval.high * factor
  if interval.closed then low ≤ point && point ≤ high else low < point && point < high

/-- Whether the lower of the neighbours `below` and `below + 1` is taken for a value that lies
`excess` above `below`, where `whole` is the distance between the two. -/
def Tie.takesLower (tie : Tie) (below excess whole : Nat) : Bool :=
  match compare (2 * excess) whole, tie with
  | .lt, _ => true
  | .gt, _ => false
  | .eq, .up => false
  | .eq, .even => below % 2 == 0

/-- The point of the grid of step `10 ^ scale` that lies in the interval, the nearer of two. -/
def gridPoint? (tie : Tie) (interval : Interval) (exponent scale : Int) : Option Nat :=
  let quarter := exponent - 2
  let factor := Nat.pow 2 quarter.toNat * Nat.pow 10 (-scale).toNat
  let step := Nat.pow 2 (-quarter).toNat * Nat.pow 10 scale.toNat
  let below := interval.value * factor / step
  let lower := interval.holds factor (below * step)
  let upper := interval.holds factor ((below + 1) * step)
  if lower && upper then
    if tie.takesLower below (interval.value * factor % step) step then some below
    else some (below + 1)
  else if lower then some below
  else if upper then some (below + 1)
  else none

/-- Tries the grids below `10 ^ scale`, `steps` of them, from coarse to fine. -/
def firstGrid (tie : Tie) (interval : Interval) (exponent : Int) :
    (steps : Nat) → (scale : Int) → Nat × Int
  | 0, scale => (0, scale)
  | steps + 1, scale =>
    match gridPoint? tie interval exponent scale with
    | some point => (point, scale)
    | none => firstGrid tie interval exponent steps (scale - 1)

/-- Digits and scale of the shortest decimal for a positive value; `reach` bounds the decimal
exponents of the format on either side. -/
def shortest (tie : Tie) (reach : Nat) (mantissa : Nat) (exponent : Int) (narrowBelow : Bool) :
    Nat × Int :=
  if mantissa = 0 then (0, 0)
  else firstGrid tie (.ofMantissa mantissa narrowBelow) exponent (2 * reach) reach

end Televisor.Decimal
