import FleetGate.Proofs.Number.Nearest

/-!
# Reading a double from its shortest decimal

Whatever grid the search for the shortest decimal ends on, what it finds lies in the interval of the
double, and so do all its digits where it finds nothing. Hence every decimal with the value of the
shortest one is read as the double again.
-/

namespace FleetGate

namespace Binary

variable {binary : Binary} {decimal : Decimal}

theorem value_toDecimal (binary : Binary) : binary.toDecimal.value = binary.value := by
  rcases binary with ⟨significand, exponent⟩
  cases exponent with
  | ofNat power => simp [toDecimal, value, Decimal.value]
  | negSucc power =>
      have ten : (10 : ℚ) ^ (power + 1) = 2 ^ (power + 1) * 5 ^ (power + 1) := by
        rw [← mul_pow]
        norm_num
      simp only [toDecimal, value, Decimal.value, zpow_negSucc, ten, Nat.pow_eq]
      push_cast
      field_simp

/-- A number lies in its own interval. -/
theorem accepts_of_value_eq_value (positive : 0 < binary.significand)
    (same : decimal.value = binary.value) : binary.accepts decimal = true := by
  have step : (0 : ℚ) < 2 ^ binary.exponent := by positivity
  have someGap : (0 : ℚ) < binary.gap := by
    unfold gap
    split <;> norm_num
  have above : binary.lower.value < decimal.value := by
    rw [value_lower positive, same, value]
    nlinarith
  have below : decimal.value < binary.upper.value := by
    rw [value_upper, same, value]
    nlinarith
  rw [accepts_iff]
  split
  · exact ⟨above.le, below.le⟩
  · exact ⟨above, below⟩

theorem accepts_of_onGrid? {exponent : ℤ} (found : binary.onGrid? exponent = some decimal) :
    binary.accepts decimal = true := by
  simp only [onGrid?] at found
  split at found
  · rename_i below
    cases found
    exact (Bool.and_eq_true_iff.1 below).1
  · split at found
    · rename_i above
      cases found
      exact above
    · cases found

theorem accepts_search (positive : 0 < binary.significand) (exponent : ℤ) (steps : ℕ) :
    binary.accepts (binary.search exponent steps) = true := by
  induction steps generalizing exponent with
  | zero => exact accepts_of_value_eq_value positive binary.value_toDecimal
  | succ steps ih =>
      rw [search]
      split
      · rename_i found
        exact accepts_of_onGrid? found
      · exact ih _

theorem accepts_shortest (positive : 0 < binary.significand) :
    binary.accepts binary.shortest = true :=
  accepts_of_value_eq (accepts_search positive _ _) (Decimal.value_strip _ _)

end Binary

namespace FloatParts

variable {number : Float} {negative : Bool} {magnitude : Binary} {decimal : Decimal}

/-- A double is read from every decimal with the value of its shortest. -/
theorem toFloat_of_value (parts : ofFloat number = .finite negative magnitude)
    (same : decimal.value = magnitude.shortest.value) : decimal.toFloat negative = number := by
  rcases eq_of_finite parts with ⟨double, bits⟩
  have accepted := Binary.accepts_of_value_eq (Binary.accepts_shortest double.positive) same
  rw [bits, Decimal.toFloat_of_accepts double accepted]

theorem toFloat_of_zero (parts : ofFloat number = .zero negative) (nothing : decimal.digits = 0) :
    decimal.toFloat negative = number := by
  rw [eq_of_zero parts, Decimal.toFloat, Decimal.nearestBits, if_pos nothing, Nat.add_zero]

theorem digits_shortest_pos (parts : ofFloat number = .finite negative magnitude) :
    0 < magnitude.shortest.digits :=
  Decimal.digits_pos_of_accepts (eq_of_finite parts).1.positive
    (Binary.accepts_shortest (eq_of_finite parts).1.positive)

end FloatParts

end FleetGate
