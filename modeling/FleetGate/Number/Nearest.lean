import FleetGate.Number.Shortest

/-!
# The nearest double

The doubles around a positive ratio have one exponent in common: the binary exponent of the ratio
less the 52 bits behind the point, or the least exponent that there is. The ratio is rounded to a
whole number of steps of this size, a half going to the even neighbour.

The bits of a double are its significand added to its exponent, as the significands of one exponent
fill the place between the bits of this exponent and the next. So a significand that is rounded up
to the next power of two needs no care, nor does a number that is rounded up to infinity.
-/

namespace FleetGate

namespace Binary

/-- The least exponent of a double. -/
def leastExponent : Int := -1074

/-- The bits of a positive double. -/
def bits (binary : Binary) : Nat :=
  (binary.exponent - leastExponent).toNat * 0x10000000000000 + binary.significand

end Binary

namespace Ratio

/-- The largest power of two that is not above a positive ratio. -/
def twoPower (ratio : Ratio) : Int :=
  let guess : Int := (ratio.num.log2 : Int) - ratio.den.log2
  if le (scale ⟨1, 1⟩ 2 guess) ratio then guess else guess - 1

/-- The double next to a positive ratio, if no exponent were too large. -/
def nearest (ratio : Ratio) : Binary :=
  let exponent := max Binary.leastExponent (ratio.twoPower - 52)
  ⟨(scale ratio 2 (-exponent)).roundToEven, exponent⟩

end Ratio

namespace Decimal

/-- The bits of infinity. -/
def infinityBits : Nat := 0x7FF0000000000000

/-- The bits of the sign. -/
def signBits (negative : Bool) : Nat :=
  if negative then 0x8000000000000000 else 0

/-- The bits of the nearest double. Far beyond the range of doubles nothing is computed. -/
def nearestBits (decimal : Decimal) : Nat :=
  if decimal.digits = 0 then 0
  else if 400 < decimal.exponent then infinityBits
  else if decimal.exponent + decimal.digits.log2 < -400 then 0
  else min decimal.toRatio.nearest.bits infinityBits

/-- The nearest double. Beyond the range of doubles the answer is infinite, below it zero. -/
def toFloat (decimal : Decimal) (negative : Bool) : Float :=
  Float.ofBits (UInt64.ofNat (signBits negative + decimal.nearestBits))

end Decimal

end FleetGate
