import FleetGate.Proofs.Number.Doubles
import FleetGate.Proofs.Number.Values

/-!
# Reading a double from what it accepts

A decimal in the interval of a double is nearest to this double (`Decimal.toFloat_of_accepts`).
Either the decimal has the exponent of the double, and then rounding it finds the significand, or it
lies just below a power of two, and then rounding it moves it up to the power. What is far beyond
the range of doubles lies in no interval.
-/

namespace FleetGate

/-! ## Powers of two and nearest integers -/

namespace Ratio

variable {ratio : Ratio}

/-- A ratio lies between the binary sizes of its parts. -/
theorem value_bounds_log2 (someNum : 0 < ratio.num) (someDen : 0 < ratio.den) :
    (2 : ℚ) ^ ((ratio.num.log2 : ℤ) - ratio.den.log2 - 1) < ratio.value ∧
      ratio.value < 2 ^ ((ratio.num.log2 : ℤ) - ratio.den.log2 + 1) := by
  have numLow : (2 : ℚ) ^ ratio.num.log2 ≤ ratio.num := by
    exact_mod_cast Nat.log2_self_le someNum.ne'
  have numHigh : (ratio.num : ℚ) < 2 ^ (ratio.num.log2 + 1) := by
    exact_mod_cast Nat.lt_log2_self (n := ratio.num)
  have denLow : (2 : ℚ) ^ ratio.den.log2 ≤ ratio.den := by
    exact_mod_cast Nat.log2_self_le someDen.ne'
  have denHigh : (ratio.den : ℚ) < 2 ^ (ratio.den.log2 + 1) := by
    exact_mod_cast Nat.lt_log2_self (n := ratio.den)
  have positive : (0 : ℚ) < ratio.den := by exact_mod_cast someDen
  have split (count : ℤ) : (2 : ℚ) ^ ((ratio.num.log2 : ℤ) - ratio.den.log2 + count) =
      2 ^ ratio.num.log2 / 2 ^ ratio.den.log2 * 2 ^ count := by
    rw [zpow_add₀ (by norm_num), zpow_sub₀ (by norm_num), zpow_natCast, zpow_natCast]
  have numPower : (0 : ℚ) < 2 ^ ratio.num.log2 := by positivity
  have denPower : (0 : ℚ) < 2 ^ ratio.den.log2 := by positivity
  rw [sub_eq_add_neg _ (1 : ℤ), split, split, value]
  constructor
  · rw [lt_div_iff₀ positive, div_mul_eq_mul_div, div_mul_eq_mul_div, div_lt_iff₀ denPower]
    rw [pow_succ] at denHigh
    norm_num
    nlinarith
  · rw [div_lt_iff₀ positive, div_mul_eq_mul_div, div_mul_eq_mul_div, lt_div_iff₀ denPower]
    rw [pow_succ] at numHigh
    norm_num
    nlinarith

/-- The power of two of a positive ratio is the largest that is not above it. -/
theorem twoPower_lt_iff (someNum : 0 < ratio.num) (someDen : 0 < ratio.den) {power : ℤ} :
    ratio.twoPower < power ↔ ratio.value < 2 ^ power := by
  have fits_iff (own : ℤ) : (scale ⟨1, 1⟩ 2 own).le ratio = true ↔ (2 : ℚ) ^ own ≤ ratio.value := by
    rw [le_iff (den_scale_pos Nat.one_pos (by decide) _) someDen,
      value_scale_natCast _ (by decide)]
    norm_num
  have between : (2 : ℚ) ^ ratio.twoPower ≤ ratio.value ∧
      ratio.value < 2 ^ (ratio.twoPower + 1) := by
    rcases value_bounds_log2 someNum someDen with ⟨low, high⟩
    rw [twoPower]
    split
    · rename_i fits
      exact ⟨(fits_iff _).1 fits, high⟩
    · rename_i large
      rw [fits_iff, not_le] at large
      rw [sub_add_cancel]
      exact ⟨low.le, large⟩
  constructor
  · intro less
    exact between.2.trans_le (zpow_le_zpow_right₀ one_lt_two.le (Int.add_one_le_of_lt less))
  · intro less
    exact (zpow_lt_zpow_iff_right₀ (one_lt_two : (1 : ℚ) < 2)).1 (between.1.trans_lt less)

/-- The nearest integer in terms of the denominator: the numerator is at most half a denominator
away from its multiple. -/
theorem roundToEven_eq_of_num (someDen : 0 < ratio.den) {whole : ℕ}
    (low : 2 * (whole * ratio.den) ≤ 2 * ratio.num + ratio.den)
    (high : 2 * ratio.num ≤ 2 * (whole * ratio.den) + ratio.den)
    (inside : whole % 2 = 1 →
      2 * (whole * ratio.den) < 2 * ratio.num + ratio.den ∧
        2 * ratio.num < 2 * (whole * ratio.den) + ratio.den) :
    ratio.roundToEven = whole := by
  have parts := Nat.div_add_mod' ratio.num ratio.den
  have small := Nat.mod_lt ratio.num someDen
  have notBelow : ratio.num / ratio.den ≤ whole := by
    by_contra less
    have step := Nat.mul_le_mul_right ratio.den (Nat.lt_of_not_le less)
    rw [Nat.succ_mul] at step
    omega
  have notAbove : whole ≤ ratio.num / ratio.den + 1 := by
    by_contra less
    have step := Nat.mul_le_mul_right ratio.den (Nat.lt_of_not_le less)
    rw [Nat.succ_mul, Nat.succ_mul] at step
    omega
  rw [roundToEven]
  rcases Nat.eq_or_lt_of_le notBelow with same | less
  · rw [← same] at low high inside ⊢
    split
    · rfl
    · split
      · omega
      · split <;> omega
  · have next : whole = ratio.num / ratio.den + 1 := by omega
    rw [next, Nat.add_one_mul (ratio.num / ratio.den)] at low high inside
    rw [next]
    split
    · omega
    · split
      · rfl
      · split <;> omega

/-- The nearest integer lies within a half, and it is even if it is just as near as another. -/
theorem roundToEven_eq (someDen : 0 < ratio.den) {whole : ℕ}
    (low : whole - 1 / 2 ≤ ratio.value) (high : ratio.value ≤ whole + 1 / 2)
    (inside : whole % 2 = 1 → whole - 1 / 2 < ratio.value ∧ ratio.value < whole + 1 / 2) :
    ratio.roundToEven = whole := by
  have positive : (0 : ℚ) < ratio.den := by exact_mod_cast someDen
  have product := value_mul_den someDen
  have lowNat : 2 * (whole * ratio.den) ≤ 2 * ratio.num + ratio.den := by
    have scaled : (2 * (whole * ratio.den) : ℚ) ≤ 2 * ratio.num + ratio.den := by
      rw [← product]
      nlinarith
    exact_mod_cast scaled
  have highNat : 2 * ratio.num ≤ 2 * (whole * ratio.den) + ratio.den := by
    have scaled : (2 * ratio.num : ℚ) ≤ 2 * (whole * ratio.den) + ratio.den := by
      rw [← product]
      nlinarith
    exact_mod_cast scaled
  have insideNat (odd : whole % 2 = 1) :
      2 * (whole * ratio.den) < 2 * ratio.num + ratio.den ∧
        2 * ratio.num < 2 * (whole * ratio.den) + ratio.den := by
    rcases inside odd with ⟨above, below⟩
    have scaledLow : (2 * (whole * ratio.den) : ℚ) < 2 * ratio.num + ratio.den := by
      rw [← product]
      nlinarith
    have scaledHigh : (2 * ratio.num : ℚ) < 2 * (whole * ratio.den) + ratio.den := by
      rw [← product]
      nlinarith
    exact ⟨by exact_mod_cast scaledLow, by exact_mod_cast scaledHigh⟩
  exact roundToEven_eq_of_num someDen lowNat highNat insideNat

end Ratio

/-! ## Intervals -/

namespace Binary

variable {binary : Binary} {decimal : Decimal}

/-- What a double accepts lies between the ends of its interval. -/
theorem bounds_of_accepts (positive : 0 < binary.significand)
    (accepted : binary.accepts decimal = true) :
    (binary.significand - binary.gap / 4 : ℚ) * 2 ^ binary.exponent ≤ decimal.value ∧
      decimal.value ≤ (binary.significand + 1 / 2 : ℚ) * 2 ^ binary.exponent := by
  rw [accepts_iff, value_lower positive, value_upper] at accepted
  split at accepted
  · exact accepted
  · exact ⟨accepted.1.le, accepted.2.le⟩

/-- An odd significand leaves out the ends. -/
theorem inside_of_accepts (positive : 0 < binary.significand)
    (accepted : binary.accepts decimal = true) (odd : binary.significand % 2 = 1) :
    (binary.significand - binary.gap / 4 : ℚ) * 2 ^ binary.exponent < decimal.value ∧
      decimal.value < (binary.significand + 1 / 2 : ℚ) * 2 ^ binary.exponent := by
  rw [accepts_iff, if_neg (by omega), value_lower positive, value_upper] at accepted
  exact accepted

theorem gap_le (binary : Binary) : (binary.gap : ℚ) ≤ 2 := by
  have small : binary.gap ≤ 2 := by
    unfold gap
    split <;> omega
  exact_mod_cast small

theorem bits_le (double : binary.IsDouble) : binary.bits ≤ Decimal.infinityBits := by
  have most := double.most
  have small := double.small
  simp only [bits, leastExponent, Decimal.infinityBits]
  omega

/-- With the exponent of the double, the nearest integer is its significand. -/
theorem roundToEven_of_accepts (positive : 0 < binary.significand)
    (accepted : binary.accepts decimal = true) :
    (Ratio.scale decimal.toRatio 2 (-binary.exponent)).roundToEven = binary.significand := by
  have step : (0 : ℚ) < 2 ^ binary.exponent := by positivity
  have scaled : (Ratio.scale decimal.toRatio 2 (-binary.exponent)).value =
      decimal.value / 2 ^ binary.exponent := by
    rw [Ratio.value_scale _ (by decide), decimal.value_toRatio, zpow_neg, div_eq_mul_inv]
    rfl
  have small := binary.gap_le
  rcases bounds_of_accepts positive accepted with ⟨low, high⟩
  apply Ratio.roundToEven_eq (Ratio.den_scale_pos decimal.den_toRatio_pos (by decide) _)
  · rw [scaled, le_div_iff₀ step]
    nlinarith
  · rw [scaled, div_le_iff₀ step]
    exact high
  · intro odd
    rcases inside_of_accepts positive accepted odd with ⟨above, below⟩
    rw [scaled, lt_div_iff₀ step, div_lt_iff₀ step]
    exact ⟨by nlinarith, below⟩

/-- A double accepts nothing below half a step. -/
theorem half_le_of_accepts (positive : 0 < binary.significand)
    (accepted : binary.accepts decimal = true) : 1 / 2 * 2 ^ binary.exponent ≤ decimal.value := by
  have step : (0 : ℚ) < 2 ^ binary.exponent := by positivity
  have smallGap := binary.gap_le
  have filled : (1 : ℚ) ≤ binary.significand := by exact_mod_cast positive
  have low := (bounds_of_accepts positive accepted).1
  nlinarith

theorem value_pos_of_accepts (positive : 0 < binary.significand)
    (accepted : binary.accepts decimal = true) : 0 < decimal.value :=
  lt_of_lt_of_le (by positivity) (half_le_of_accepts positive accepted)

theorem num_toRatio_pos (positive : 0 < binary.significand)
    (accepted : binary.accepts decimal = true) : 0 < decimal.toRatio.num := by
  have above := value_pos_of_accepts positive accepted
  rw [← decimal.value_toRatio] at above
  by_contra nothing
  rw [Ratio.value, Nat.eq_zero_of_not_pos nothing] at above
  simp at above

/-- The power of two of what a double accepts, in terms of steps of the double. -/
theorem twoPower_lt_iff_of_accepts (positive : 0 < binary.significand)
    (accepted : binary.accepts decimal = true) (count : ℕ) :
    decimal.toRatio.twoPower < binary.exponent + count ↔
      decimal.value < 2 ^ count * 2 ^ binary.exponent := by
  rw [Ratio.twoPower_lt_iff (num_toRatio_pos positive accepted) decimal.den_toRatio_pos,
    decimal.value_toRatio, zpow_add₀ (by norm_num), zpow_natCast, mul_comm]

/-- Just below a power of two the exponent is one less than that of the double. Then the significand
is rounded up to the power. -/
theorem roundToEven_below (power : binary.significand = 2 ^ 52) (oneLess : binary.gap = 1)
    (accepted : binary.accepts decimal = true)
    (below : decimal.value < 2 ^ 52 * 2 ^ binary.exponent) :
    (Ratio.scale decimal.toRatio 2 (-(binary.exponent - 1))).roundToEven = 2 ^ 53 := by
  have step : (0 : ℚ) < 2 ^ binary.exponent := by positivity
  have scaled : (Ratio.scale decimal.toRatio 2 (-(binary.exponent - 1))).value =
      2 * decimal.value / 2 ^ binary.exponent := by
    rw [Ratio.value_scale _ (by decide), decimal.value_toRatio, neg_sub, zpow_sub₀ (by norm_num)]
    push_cast
    ring
  have low := (bounds_of_accepts (by rw [power]; decide) accepted).1
  rw [power, oneLess] at low
  push_cast at low
  apply Ratio.roundToEven_eq (Ratio.den_scale_pos decimal.den_toRatio_pos (by decide) _)
  · rw [scaled, le_div_iff₀ step]
    push_cast
    nlinarith
  · rw [scaled, div_le_iff₀ step]
    push_cast
    nlinarith
  · intro odd
    cases odd

/-- What a double accepts is nearest to it. -/
theorem bits_nearest_of_accepts (double : binary.IsDouble)
    (accepted : binary.accepts decimal = true) :
    decimal.toRatio.nearest.bits = binary.bits := by
  have power_lt_iff := twoPower_lt_iff_of_accepts double.positive accepted
  have step : (0 : ℚ) < 2 ^ binary.exponent := by positivity
  have smallGap := binary.gap_le
  have least := double.least
  rcases bounds_of_accepts double.positive accepted with ⟨low, high⟩
  have notAbove : decimal.toRatio.twoPower < binary.exponent + 53 := by
    have short : (binary.significand : ℚ) + 1 ≤ 2 ^ 53 := by exact_mod_cast double.small
    refine (power_lt_iff 53).2 ?_
    nlinarith
  -- With the exponent of the double nothing is left to show.
  have sameStep (same : max leastExponent (decimal.toRatio.twoPower - 52) = binary.exponent) :
      decimal.toRatio.nearest.bits = binary.bits := by
    rw [Ratio.nearest, same, roundToEven_of_accepts double.positive accepted]
  by_cases lowest : binary.exponent = leastExponent
  · exact sameStep (by omega)
  by_cases below : decimal.value < 2 ^ 52 * 2 ^ binary.exponent
  · have power : binary.significand = 2 ^ 52 := by
      have long := double.filled.resolve_left lowest
      have reached : (binary.significand : ℚ) < 2 ^ 52 + 1 := by nlinarith
      have short : binary.significand < 2 ^ 52 + 1 := by exact_mod_cast reached
      omega
    have oneLess : binary.gap = 1 := by
      have inside : (-1074 : ℤ) < binary.exponent :=
        lt_of_le_of_ne least (Ne.symm lowest)
      simp [gap, atPowerOfTwo, power, inside]
    have oneDown : max leastExponent (decimal.toRatio.twoPower - 52) = binary.exponent - 1 := by
      have up := (power_lt_iff 52).2 below
      have notBelow : ¬decimal.toRatio.twoPower < binary.exponent + 51 := by
        rw [power, oneLess] at low
        refine (power_lt_iff 51).not.2 (not_lt.2 ?_)
        push_cast at low
        nlinarith
      omega
    rw [Ratio.nearest, oneDown, roundToEven_below power oneLess accepted below]
    simp only [bits, leastExponent, power] at least lowest ⊢
    omega
  · have notBelow := (power_lt_iff 52).not.2 below
    exact sameStep (by omega)

end Binary

/-! ## Doubles -/

namespace Decimal

variable {binary : Binary} {decimal : Decimal}

theorem digits_pos_of_accepts (positive : 0 < binary.significand)
    (accepted : binary.accepts decimal = true) : 0 < decimal.digits := by
  have above := Binary.value_pos_of_accepts positive accepted
  by_contra nothing
  rw [value, Nat.eq_zero_of_not_pos nothing] at above
  simp at above

/-- No double accepts what is far beyond the largest. -/
theorem exponent_le_of_accepts (double : binary.IsDouble)
    (accepted : binary.accepts decimal = true) : decimal.exponent ≤ 400 := by
  by_contra large
  have most := double.most
  have digits : (1 : ℚ) ≤ decimal.digits := by
    exact_mod_cast digits_pos_of_accepts double.positive accepted
  have short : (binary.significand : ℚ) + 1 ≤ 2 ^ 53 := by exact_mod_cast double.small
  have low : (10 : ℚ) ^ 401 ≤ 10 ^ decimal.exponent := by
    rw [← zpow_natCast]
    exact zpow_le_zpow_right₀ (by norm_num) (by omega)
  have high : 2 ^ 53 * (2 : ℚ) ^ binary.exponent ≤ 2 ^ 1024 := by
    rw [← zpow_natCast, ← zpow_natCast, ← zpow_add₀ (by norm_num)]
    exact zpow_le_zpow_right₀ (by norm_num) (by omega)
  have contrary : (10 : ℚ) ^ 401 < 10 ^ 401 := calc
    (10 : ℚ) ^ 401 ≤ 10 ^ decimal.exponent := low
    _ ≤ decimal.digits * 10 ^ decimal.exponent := le_mul_of_one_le_left (by positivity) digits
    _ ≤ (binary.significand + 1 / 2) * 2 ^ binary.exponent :=
      (Binary.bounds_of_accepts double.positive accepted).2
    _ ≤ 2 ^ 53 * 2 ^ binary.exponent := mul_le_mul_of_nonneg_right (by linarith) (by positivity)
    _ ≤ 2 ^ 1024 := high
    _ < 10 ^ 401 := by exact_mod_cast (by decide +kernel : 2 ^ 1024 < 10 ^ 401)
  exact lt_irrefl _ contrary

/-- No double accepts what is far below the least. -/
theorem le_exponent_of_accepts (double : binary.IsDouble)
    (accepted : binary.accepts decimal = true) :
    -400 ≤ decimal.exponent + decimal.digits.log2 := by
  by_contra small
  have digits : (decimal.digits : ℚ) < 2 * 2 ^ decimal.digits.log2 := by
    rw [← pow_succ']
    exact_mod_cast Nat.lt_log2_self (n := decimal.digits)
  have wider : (2 : ℚ) ^ decimal.digits.log2 ≤ 10 ^ decimal.digits.log2 :=
    pow_le_pow_left₀ (by norm_num) (by norm_num) _
  have high : (10 : ℚ) ^ decimal.digits.log2 * 10 ^ decimal.exponent ≤ (10 ^ 401)⁻¹ := by
    rw [← zpow_natCast, ← zpow_natCast, ← zpow_neg, ← zpow_add₀ (by norm_num)]
    exact zpow_le_zpow_right₀ (by norm_num) (by omega)
  have low : ((2 : ℚ) ^ 1074)⁻¹ ≤ 2 ^ binary.exponent := by
    rw [← zpow_natCast, ← zpow_neg]
    exact zpow_le_zpow_right₀ (by norm_num) double.least
  have apart : (2 : ℚ) * (10 ^ 401)⁻¹ < 1 / 2 * (2 ^ 1074)⁻¹ := by
    have powers : 2 * 2 ^ 1074 * 2 < 10 ^ 401 := by decide +kernel
    rw [← div_eq_mul_inv, ← div_eq_mul_inv, div_lt_div_iff₀ (by positivity) (by positivity),
      one_div_mul_eq_div, lt_div_iff₀ (by norm_num)]
    exact_mod_cast powers
  have contrary : (2 : ℚ) * (10 ^ 401)⁻¹ < 2 * (10 ^ 401)⁻¹ := calc
    (2 : ℚ) * (10 ^ 401)⁻¹ < 1 / 2 * (2 ^ 1074)⁻¹ := apart
    _ ≤ 1 / 2 * 2 ^ binary.exponent := mul_le_mul_of_nonneg_left low (by norm_num)
    _ ≤ decimal.digits * 10 ^ decimal.exponent :=
      Binary.half_le_of_accepts double.positive accepted
    _ ≤ 2 * (10 ^ decimal.digits.log2 * 10 ^ decimal.exponent) := by
      rw [← mul_assoc]
      exact mul_le_mul_of_nonneg_right (by linarith) (by positivity)
    _ ≤ 2 * (10 ^ 401)⁻¹ := mul_le_mul_of_nonneg_left high (by norm_num)
  exact lt_irrefl _ contrary

/-- A double is read from every decimal that it accepts. -/
theorem toFloat_of_accepts (double : binary.IsDouble) (accepted : binary.accepts decimal = true)
    (negative : Bool) :
    decimal.toFloat negative =
      Float.ofBits (UInt64.ofNat (signBits negative + binary.bits)) := by
  have some := digits_pos_of_accepts double.positive accepted
  have notLarge := exponent_le_of_accepts double accepted
  have notSmall := le_exponent_of_accepts double accepted
  have within := Binary.bits_le double
  rw [toFloat, nearestBits, if_neg some.ne', if_neg (by omega), if_neg (by omega),
    Binary.bits_nearest_of_accepts double accepted, Nat.min_eq_left within]

end Decimal

end FleetGate
