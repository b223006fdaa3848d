namespace Televisor.Decimal

/-! Binary floating-point values as exact numbers: a sign, a mantissa and a power of two. -/

/-- A finite value stands for `mantissa * 2 ^ exponent`; `narrowBelow` holds where the next smaller
value of the format is only half as far away as the next larger one. -/
inductive Binary where
  | nan
  | infinite (negative : Bool)
  | finite (negative : Bool) (mantissa : Nat) (exponent : Int) (narrowBelow : Bool)
deriving Repr, DecidableEq

namespace Binary

/-- Reads the three fields of an interchange format with the given widths. -/
def ofFields (exponentBits fractionBits : Nat) (bits : Nat) : Binary :=
  let fraction := bits % Nat.pow 2 fractionBits
  let biased := bits / Nat.pow 2 fractionBits % Nat.pow 2 exponentBits
  let negative := bits / Nat.pow 2 (fractionBits + exponentBits) % 2 == 1
  let bias : Int := (Nat.pow 2 (exponentBits - 1) : Nat) - 1 + fractionBits
  if biased + 1 = Nat.pow 2 exponentBits then
    if fraction = 0 then .infinite negative else .nan
  else if biased = 0 then .finite negative fraction (1 - bias) false
  else
    .finite negative (Nat.pow 2 fractionBits + fraction) (biased - bias)
      (fraction == 0 && biased != 1)

def ofSingle (x : Float32) : Binary :=
  ofFields 8 23 x.toBits.toNat

def ofDouble (x : Float) : Binary :=
  ofFields 11 52 x.toBits.toNat

end Binary

end Televisor.Decimal
