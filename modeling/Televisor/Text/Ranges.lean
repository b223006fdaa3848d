import Televisor.Text.Hex

namespace Televisor.Text

/-! Sets of code points as half-open ranges in rising order. -/

abbrev Ranges := List (Nat × Nat)

def hexNumbersFrom (current : Nat) : List Char → List Nat
  | [] => [current]
  | c :: rest =>
    match hexValue? c with
    | some value => hexNumbersFrom (current * 16 + value) rest
    | none => current :: hexNumbersFrom 0 rest

namespace Ranges

/-- Each pair is the gap after the previous range and the size of the next. -/
def ofGapsFrom (position : Nat) : List Nat → Ranges
  | gap :: size :: rest =>
    (position + gap, position + gap + size) :: ofGapsFrom (position + gap + size) rest
  | _ => []

def ofGaps (text : String) : Ranges :=
  ofGapsFrom 0 (hexNumbersFrom 0 text.toList)

def contains (ranges : Ranges) (code : Nat) : Bool :=
  ranges.any fun range => range.1 ≤ code && code < range.2

end Ranges

end Televisor.Text
