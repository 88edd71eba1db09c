/-!
# Shortest decimals of floating-point numbers

A finite double is `significand * 2 ^ exponent`. The reals that round to it form an interval
around it, whose ends belong to it iff the significand is even. `shortest` finds the decimal with
the fewest digits in that interval, and of several such the nearest: for one digit, two digits
and so on up to seventeen it tests the two neighbours of the value on the decimal grid with that
many digits, in exact arithmetic. A number that needed still more digits would keep all it has.
-/

namespace FleetGate

/-- A positive binary number `significand * 2 ^ exponent`. -/
structure Binary where
  significand : Nat
  exponent : Int
  deriving DecidableEq

/-- A decimal number `digits * 10 ^ exponent`. -/
structure Decimal where
  digits : Nat
  exponent : Int
  deriving DecidableEq

/-- A nonnegative ratio of natural numbers. -/
structure Ratio where
  num : Nat
  den : Nat

namespace Ratio

/-- Multiplication by an integer power of a base. -/
def scale (ratio : Ratio) (base : Nat) : Int → Ratio
  | .ofNat power => ⟨ratio.num * Nat.pow base power, ratio.den⟩
  | .negSucc power => ⟨ratio.num, ratio.den * Nat.pow base (power + 1)⟩

/-- The order of ratios with positive denominators. -/
def le (left right : Ratio) : Bool :=
  left.num * right.den ≤ right.num * left.den

/-- Strict order of ratios with positive denominators. -/
def lt (left right : Ratio) : Bool :=
  left.num * right.den < right.num * left.den

/-- The largest integer that is not above the ratio. -/
def floor (ratio : Ratio) : Nat :=
  ratio.num / ratio.den

/-- The nearest integer; of two equally near ones the larger. -/
def roundUp (ratio : Ratio) : Nat :=
  (2 * ratio.num + ratio.den) / (2 * ratio.den)

/-- The nearest integer; of two equally near ones the even one. -/
def roundToEven (ratio : Ratio) : Nat :=
  let low := ratio.num / ratio.den
  let rest := 2 * (ratio.num % ratio.den)
  if rest < ratio.den then low
  else if ratio.den < rest then low + 1
  else if low % 2 = 0 then low
  else low + 1

/-- The largest power of ten that is not above a positive ratio, found from the binary sizes. -/
def tenPower (ratio : Ratio) : Int :=
  let guess : Int := ((ratio.num.log2 : Int) - (ratio.den.log2 : Int)) * 30103 / 100000 + 2
  let fits (power : Int) : Bool := le (scale ⟨1, 1⟩ 10 power) ratio
  if fits guess then guess
  else if fits (guess - 1) then guess - 1
  else if fits (guess - 2) then guess - 2
  else if fits (guess - 3) then guess - 3
  else guess - 4

end Ratio

namespace Decimal

/-- The exact value. -/
def toRatio (decimal : Decimal) : Ratio :=
  Ratio.scale ⟨decimal.digits, 1⟩ 10 decimal.exponent

/-- Drops the zeros at the end of the digits. -/
def strip (decimal : Decimal) : (steps : Nat) → Decimal
  | 0 => decimal
  | steps + 1 =>
    if decimal.digits % 10 = 0 ∧ decimal.digits ≠ 0 then
      strip ⟨decimal.digits / 10, decimal.exponent + 1⟩ steps
    else decimal

end Decimal

namespace Binary

/-- The exact value. -/
def toRatio (binary : Binary) : Ratio :=
  Ratio.scale ⟨binary.significand, 1⟩ 2 binary.exponent

/-- The distance to the next double below is half the usual one at a power of two, unless the
number is as small as doubles get. -/
def atPowerOfTwo (binary : Binary) : Bool :=
  binary.significand = 0x10000000000000 && -1074 < binary.exponent

/-- The lower end of the interval of reals that round to the number. -/
def lower (binary : Binary) : Ratio :=
  Ratio.scale ⟨4 * binary.significand - (if binary.atPowerOfTwo then 1 else 2), 1⟩ 2
    (binary.exponent - 2)

/-- The upper end of the interval of reals that round to the number. -/
def upper (binary : Binary) : Ratio :=
  Ratio.scale ⟨4 * binary.significand + 2, 1⟩ 2 (binary.exponent - 2)

/-- A decimal lies in the interval of reals that round to the number. -/
def accepts (binary : Binary) (decimal : Decimal) : Bool :=
  if binary.significand % 2 = 0 then
    binary.lower.le decimal.toRatio && decimal.toRatio.le binary.upper
  else
    binary.lower.lt decimal.toRatio && decimal.toRatio.lt binary.upper

/-- The lower of two neighbouring grid points is at least as near as the upper. -/
def nearerBelow (binary : Binary) (below : Decimal) : Bool :=
  let middle := Decimal.toRatio ⟨10 * below.digits + 5, below.exponent - 1⟩
  binary.toRatio.lt middle || (binary.toRatio.le middle && below.digits % 2 = 0)

/-- The best decimal on the grid of one exponent, if one of the two neighbours is accepted. -/
def onGrid? (binary : Binary) (exponent : Int) : Option Decimal :=
  let digits := (Ratio.scale binary.toRatio 10 (-exponent)).floor
  let below : Decimal := ⟨digits, exponent⟩
  let above : Decimal := ⟨digits + 1, exponent⟩
  if binary.accepts below && (binary.nearerBelow below || !binary.accepts above) then some below
  else if binary.accepts above then some above
  else none

/-- All the digits of the number. -/
def toDecimal (binary : Binary) : Decimal :=
  match binary.exponent with
  | .ofNat power => ⟨binary.significand * Nat.pow 2 power, 0⟩
  | .negSucc power => ⟨binary.significand * Nat.pow 5 (power + 1), .negSucc power⟩

/-- Tries finer and finer grids. -/
def search (binary : Binary) (exponent : Int) : (steps : Nat) → Decimal
  | 0 => binary.toDecimal
  | steps + 1 =>
    match binary.onGrid? exponent with
    | some decimal => decimal
    | none => search binary (exponent - 1) steps

/-- The decimal with the fewest digits that reads back as the number, the nearest of those. -/
def shortest (binary : Binary) : Decimal :=
  (search binary binary.toRatio.tenPower 17).strip 400

/-- The nearest decimal with at most this many digits; of two equally near ones the larger. -/
def rounded (binary : Binary) (count : Nat) : Decimal :=
  let exponent := binary.toRatio.tenPower + 1 - count
  Decimal.strip ⟨(Ratio.scale binary.toRatio 10 (-exponent)).roundUp, exponent⟩ count

end Binary

/-- What the bits of a double say. -/
inductive FloatParts where
  | nan
  | infinite (negative : Bool)
  | zero (negative : Bool)
  | finite (negative : Bool) (magnitude : Binary)
  deriving DecidableEq

/-- Reads sign, exponent and significand out of the bits of a double. -/
def FloatParts.ofFloat (float : Float) : FloatParts :=
  let bits : Nat := float.toBits.toNat
  let negative : Bool := bits / 0x8000000000000000 == 1
  let biased : Nat := bits / 0x10000000000000 % 2048
  let fraction : Nat := bits % 0x10000000000000
  if biased = 2047 then
    if fraction = 0 then .infinite negative else .nan
  else if biased = 0 then
    if fraction = 0 then .zero negative else .finite negative ⟨fraction, -1074⟩
  else .finite negative ⟨0x10000000000000 + fraction, (biased : Int) - 1075⟩

namespace FloatParts

/-- The integer that the bits of a double spell, if they spell one. -/
def whole? : FloatParts → Option Int
  | zero _ => some 0
  | finite negative magnitude =>
    let ratio := magnitude.toRatio
    if ratio.num % ratio.den = 0 then
      some (if negative then -ratio.floor else ratio.floor)
    else none
  | _ => none

/-- The largest integer that is not above a finite double. -/
def floor? : FloatParts → Option Int
  | zero _ => some 0
  | finite false magnitude => some magnitude.toRatio.floor
  | finite true magnitude =>
    let ratio := magnitude.toRatio
    some (-((ratio.num + (ratio.den - 1)) / ratio.den : Nat))
  | _ => none

/-- The nearest integer of a finite magnitude, a half going up; the sign does not count. -/
def roundUp : FloatParts → Nat
  | finite _ magnitude => magnitude.toRatio.roundUp
  | _ => 0

end FloatParts

end FleetGate
