import Televisor.Decimal.Layout

namespace Televisor.Media

/-! Volume levels.  A level is a single-precision value, kept as an exact number, so that two
levels are equal iff they are the same value. -/

abbrev Level := Decimal.Binary

namespace Level

open Decimal

/-- The number of binary digits a level keeps. -/
def precision : Nat := 24

/-- Drops the last `places` binary digits and rounds to nearest, a tie to even. -/
def roundOff (mantissa places : Nat) : Nat :=
  let kept := mantissa / Nat.pow 2 places
  let lost := mantissa % Nat.pow 2 places
  let half := Nat.pow 2 places / 2
  if places = 0 || lost < half || (lost = half && kept % 2 = 0) then kept else kept + 1

/-- A positive value of `precision` or, after a carry, one more binary digits. -/
def normal (negative : Bool) (mantissa : Nat) (exponent : Int) : Level :=
  let least := Nat.pow 2 (precision - 1)
  if mantissa = 2 * least then .finite negative least (exponent + 1) true
  else .finite negative mantissa exponent (mantissa == least)

def zero (negative : Bool) : Level :=
  .finite negative 0 (-149) false

/-- The value of `mantissa * 2 ^ exponent` to 24 binary digits, a tie going to even; the exponent
must be in the normal range. -/
def rounded (negative : Bool) (mantissa : Nat) (exponent : Int) : Level :=
  let width := mantissa.log2 + 1
  if mantissa = 0 then zero negative
  else if width ≤ precision then
    normal negative (mantissa * Nat.pow 2 (precision - width)) (exponent - (precision - width : Nat))
  else
    normal negative (roundOff mantissa (width - precision)) (exponent + (width - precision : Nat))

def ofInt (n : Int) : Level :=
  rounded (n < 0) n.natAbs 0

def ofFloat (x : Float) : Level :=
  .ofSingle x.toFloat32

/-- The hundredth part of a number below a hundred: enough binary digits of the quotient, the last
one set if the division leaves a remainder. -/
def hundredth (percent : Nat) : Level :=
  let scaled := percent * Nat.pow 2 32
  rounded false (2 * (scaled / 100) + if scaled % 100 = 0 then 0 else 1) (-33)

def ofPercent (percent : Nat) : Level :=
  if 100 ≤ percent then rounded false 1 0 else hundredth percent

/-- Whether `mantissa * 2 ^ exponent` is at most `bound`. -/
def atMost (mantissa : Nat) (exponent : Int) (bound : Nat) : Bool :=
  mantissa * Nat.pow 2 exponent.toNat ≤ bound * Nat.pow 2 (-exponent).toNat

def inUnit : Level → Bool
  | .finite negative mantissa exponent _ => mantissa = 0 || (!negative && atMost mantissa exponent 1)
  | _ => false

/-- The nearest whole number to `mantissa * 2 ^ exponent`, a half going up. -/
def nearest (mantissa : Nat) (exponent : Int) : Nat :=
  let unit := Nat.pow 2 (-exponent).toNat
  (2 * mantissa * Nat.pow 2 exponent.toNat + unit) / (2 * unit)

/-- The whole per cent nearest to the level, which is first limited to zero and one and then
multiplied by a hundred in single precision; what is no number counts as zero. -/
def toPercent : Level → Nat
  | .nan => 0
  | .infinite negative => if negative then 0 else 100
  | .finite negative mantissa exponent _ =>
    if negative then 0
    else if atMost mantissa exponent 1 then
      match rounded false (mantissa * 100) exponent with
      | .finite _ mantissa exponent _ => nearest mantissa exponent
      | _ => 0
    else 100

def text (level : Level) : String :=
  Decimal.plain.render 60 level

/-- The JSON text of a level; what is not finite is `null`. -/
def json (level : Level) : String :=
  match level with
  | .finite .. => Decimal.jsonSingle.render 60 level
  | _ => "null"

end Level

end Televisor.Media
