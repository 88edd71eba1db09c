import FleetGate.Text.Digits
import FleetGate.Timestamp

/-!
# Numbers in a fixed count of digits

A number that is written with a fixed count of digits ends in its last digit, and in front of it
stands the rest of the number with one digit less. Decimal and hexadecimal digits are read back as
the numbers that they stand for.
-/

namespace FleetGate

namespace Digit

/-- The point of the last digit of a number. -/
def point (base number : Nat) : CodePoint :=
  .scalar (Nat.digitChar (number % base))

/-- A number in digits of a base, filled up with zeros to a width. -/
def padded (base width number : Nat) : Text :=
  (List.replicate (width - (Nat.toDigits base number).length) '0' ++
    Nat.toDigits base number).map .scalar

theorem padded_one {base number : Nat} (small : number < base) :
    padded base 1 number = [point base number] := by
  simp [padded, point, Nat.toDigits_of_lt_base small, Nat.mod_eq_of_lt small]

/-- The last digit stands behind the others. -/
theorem padded_succ {base width : Nat} (wide : 1 < base) (positive : 0 < width) (number : Nat) :
    padded base (width + 1) number =
      padded base width (number / base) ++ [point base number] := by
  by_cases small : number < base
  · have zeros : List.replicate width '0' = List.replicate (width - 1) '0' ++ ['0'] := by
      rw [← List.replicate_succ', Nat.sub_add_cancel positive]
    have zero : Nat.toDigits base 0 = ['0'] := Nat.toDigits_of_lt_base (by omega)
    simp [padded, point, Nat.div_eq_of_lt small, Nat.mod_eq_of_lt small,
      Nat.toDigits_of_lt_base small, zero, zeros]
  · have parts := Nat.toDigits_of_base_le (b := base) (n := number) wide (by omega)
    simp only [padded, point, parts, List.length_append, List.length_singleton,
      Nat.add_sub_add_right, List.map_append, List.append_assoc, List.map_cons, List.map_nil]

@[simp]
theorem asciiDigit?_point (number : Nat) : (point 10 number).asciiDigit? = some (number % 10) := by
  have all : ∀ digit < 10, (CodePoint.scalar (Nat.digitChar digit)).asciiDigit? = some digit := by
    decide
  exact all (number % 10) (Nat.mod_lt number (by omega))

@[simp]
theorem hexDigit?_point (number : Nat) : (point 16 number).hexDigit? = some (number % 16) := by
  have all : ∀ digit < 16, (CodePoint.scalar (Nat.digitChar digit)).hexDigit? = some digit := by
    decide
  exact all (number % 16) (Nat.mod_lt number (by omega))

/-- A decimal digit is no other mark. -/
theorem is_point (mark : Char) (other : (CodePoint.scalar mark).asciiDigit? = none)
    (number : Nat) : (point 10 number).is mark = false := by
  have digit := asciiDigit?_point number
  rw [Bool.eq_false_iff, ne_eq, CodePoint.is_eq_true_iff]
  intro same
  rw [same, other] at digit
  cases digit

theorem padded_four {base number : Nat} (wide : 1 < base)
    (small : number / base / base / base < base) :
    padded base 4 number = [point base (number / base / base / base),
      point base (number / base / base), point base (number / base), point base number] := by
  rw [padded_succ wide (by omega), padded_succ wide (by omega), padded_succ wide (by omega),
    padded_one small]
  rfl

end Digit

end FleetGate
