import FleetGate.Number.Shortest
import Mathlib.Algebra.Order.Field.Basic
import Mathlib.Algebra.Order.Field.Power
import Mathlib.Algebra.Order.Field.Rat
import Mathlib.Tactic.FieldSimp
import Mathlib.Tactic.Linarith
import Mathlib.Tactic.NormNum
import Mathlib.Tactic.Positivity
import Mathlib.Tactic.Ring

/-!
# Exact values

Ratios, decimals and binary numbers stand for rational numbers. Ratios with positive denominators
are compared as these are, a scaled ratio stands for the product, and what lies in the interval of a
binary number depends on the value of a decimal alone.
-/

namespace FleetGate

namespace Ratio

/-- The number that a ratio stands for. -/
def value (ratio : Ratio) : ℚ :=
  ratio.num / ratio.den

variable {ratio left right : Ratio} {base : ℕ}

theorem value_mul_den (positive : 0 < ratio.den) : ratio.value * ratio.den = ratio.num := by
  have filled : (ratio.den : ℚ) ≠ 0 := by exact_mod_cast positive.ne'
  rw [value, div_mul_cancel₀ _ filled]

theorem le_iff (leftPositive : 0 < left.den) (rightPositive : 0 < right.den) :
    left.le right = true ↔ left.value ≤ right.value := by
  have first : (0 : ℚ) < left.den := by exact_mod_cast leftPositive
  have second : (0 : ℚ) < right.den := by exact_mod_cast rightPositive
  rw [le, decide_eq_true_eq, value, value, div_le_div_iff₀ first second]
  exact_mod_cast Iff.rfl

theorem lt_iff (leftPositive : 0 < left.den) (rightPositive : 0 < right.den) :
    left.lt right = true ↔ left.value < right.value := by
  have first : (0 : ℚ) < left.den := by exact_mod_cast leftPositive
  have second : (0 : ℚ) < right.den := by exact_mod_cast rightPositive
  rw [lt, decide_eq_true_eq, value, value, div_lt_div_iff₀ first second]
  exact_mod_cast Iff.rfl

theorem den_scale_pos (positive : 0 < ratio.den) (some : 0 < base) (exponent : ℤ) :
    0 < (ratio.scale base exponent).den := by
  cases exponent with
  | ofNat power => exact positive
  | negSucc power => exact Nat.mul_pos positive (Nat.pow_pos some)

/-- A scaled ratio stands for the product. -/
theorem value_scale (ratio : Ratio) (some : 0 < base) (exponent : ℤ) :
    (ratio.scale base exponent).value = ratio.value * (base : ℚ) ^ exponent := by
  cases exponent with
  | ofNat power =>
      simp only [scale, value, Nat.pow_eq, Int.ofNat_eq_natCast, zpow_natCast]
      push_cast
      ring
  | negSucc power =>
      have filled : (base : ℚ) ≠ 0 := by exact_mod_cast some.ne'
      simp only [scale, value, Nat.pow_eq, zpow_negSucc]
      push_cast
      field_simp

theorem value_scale_natCast (count : ℕ) (some : 0 < base) (exponent : ℤ) :
    (scale ⟨count, 1⟩ base exponent).value = count * (base : ℚ) ^ exponent := by
  rw [value_scale _ some]
  simp [value]

end Ratio

namespace Decimal

/-- The number that digits and an exponent stand for. -/
def value (decimal : Decimal) : ℚ :=
  decimal.digits * 10 ^ decimal.exponent

theorem value_toRatio (decimal : Decimal) : decimal.toRatio.value = decimal.value := by
  rw [toRatio, Ratio.value_scale_natCast _ (by decide), value]
  rfl

theorem den_toRatio_pos (decimal : Decimal) : 0 < decimal.toRatio.den :=
  Ratio.den_scale_pos Nat.one_pos (by decide) _

/-- Without the zeros at its end a decimal stands for the same number. -/
theorem value_strip (decimal : Decimal) (steps : ℕ) :
    (decimal.strip steps).value = decimal.value := by
  induction steps generalizing decimal with
  | zero => rfl
  | succ steps ih =>
      rw [strip]
      split
      · rename_i ends
        have whole : (decimal.digits : ℚ) = (decimal.digits / 10 : ℕ) * 10 := by
          exact_mod_cast (by omega : decimal.digits = decimal.digits / 10 * 10)
        rw [ih, value, value, whole, zpow_add_one₀ (by norm_num)]
        ring
      · rfl

end Decimal

namespace Binary

/-- The number that a significand and an exponent stand for. -/
def value (binary : Binary) : ℚ :=
  binary.significand * 2 ^ binary.exponent

variable {binary : Binary} {decimal other : Decimal}

theorem value_toRatio (binary : Binary) : binary.toRatio.value = binary.value := by
  rw [toRatio, Ratio.value_scale_natCast _ (by decide), value]
  rfl

/-- The distance down to the lower end of the interval, in quarters of a step. -/
def gap (binary : Binary) : ℕ :=
  if binary.atPowerOfTwo then 1 else 2

theorem value_lower (positive : 0 < binary.significand) :
    binary.lower.value = (binary.significand - binary.gap / 4) * 2 ^ binary.exponent := by
  have scaled : binary.lower.value =
      (4 * binary.significand - binary.gap : ℕ) * 2 ^ (binary.exponent - 2) :=
    Ratio.value_scale_natCast _ (by decide) _
  have room : binary.gap ≤ 4 * binary.significand := by
    unfold gap
    split <;> omega
  rw [scaled, Nat.cast_sub room, zpow_sub₀ (by norm_num)]
  push_cast
  ring

theorem value_upper (binary : Binary) :
    binary.upper.value = (binary.significand + 1 / 2) * 2 ^ binary.exponent := by
  have scaled : binary.upper.value =
      (4 * binary.significand + 2 : ℕ) * 2 ^ (binary.exponent - 2) :=
    Ratio.value_scale_natCast _ (by decide) _
  rw [scaled, zpow_sub₀ (by norm_num)]
  push_cast
  ring

/-- The ends of the interval count for even significands only. -/
theorem accepts_iff : binary.accepts decimal = true ↔
    if binary.significand % 2 = 0 then
      binary.lower.value ≤ decimal.value ∧ decimal.value ≤ binary.upper.value
    else binary.lower.value < decimal.value ∧ decimal.value < binary.upper.value := by
  have lowerPositive : 0 < binary.lower.den := Ratio.den_scale_pos Nat.one_pos (by decide) _
  have upperPositive : 0 < binary.upper.den := Ratio.den_scale_pos Nat.one_pos (by decide) _
  unfold accepts
  split <;>
    rw [Bool.and_eq_true]
  · rw [Ratio.le_iff lowerPositive decimal.den_toRatio_pos,
      Ratio.le_iff decimal.den_toRatio_pos upperPositive, decimal.value_toRatio]
  · rw [Ratio.lt_iff lowerPositive decimal.den_toRatio_pos,
      Ratio.lt_iff decimal.den_toRatio_pos upperPositive, decimal.value_toRatio]

theorem accepts_of_value_eq (accepted : binary.accepts decimal = true)
    (same : other.value = decimal.value) : binary.accepts other = true := by
  rw [accepts_iff] at accepted ⊢
  rw [same]
  exact accepted

end Binary

end FleetGate
