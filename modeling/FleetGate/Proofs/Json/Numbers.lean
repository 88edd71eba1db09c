import FleetGate.Json.Reader
import FleetGate.Proofs.Number.Padded

/-!
# Integers in decimal digits

An integer is written in decimal digits, with a minus sign if it is negative. The reader takes all
digits up to a character that can follow a value, and adds them up to the integer. A number of more
than one digit does not begin with a zero, which would be a number of its own.
-/

namespace FleetGate

namespace Text

theorem ofNat_of_lt {number : Nat} (small : number < 10) :
    ofNat number = [Digit.point 10 number] := by
  simp [ofNat, Digit.point, Nat.toDigits_of_lt_base small, Nat.mod_eq_of_lt small]

/-- The last digit stands behind the others. -/
theorem ofNat_of_le {number : Nat} (large : 10 ≤ number) :
    ofNat number = ofNat (number / 10) ++ [Digit.point 10 number] := by
  have parts := Nat.toDigits_of_base_le (b := 10) (n := number) (by omega) large
  simp [ofNat, Digit.point, parts]

/-- Only decimal digits. -/
def IsDigits (text : Text) : Prop :=
  ∀ point ∈ text, ∃ digit, point = Digit.point 10 digit

/-- The digits of a number are digits. -/
theorem isDigits_ofNat (number : Nat) : IsDigits (ofNat number) := by
  intro point listed
  induction number using Nat.strongRecOn with
  | ind number ih =>
      by_cases small : number < 10
      · rw [ofNat_of_lt small, List.mem_singleton] at listed
        exact ⟨number, listed⟩
      · rw [ofNat_of_le (by omega), List.mem_append, List.mem_singleton] at listed
        rcases listed with front | rfl
        · exact ih (number / 10) (by omega) front
        · exact ⟨number, rfl⟩

/-- Only zero begins with a zero. -/
theorem exists_first_of_ofNat {number : Nat} (positive : 0 < number) :
    ∃ digit rest, ofNat number = Digit.point 10 digit :: rest ∧
      (Digit.point 10 digit).is '0' = false := by
  induction number using Nat.strongRecOn with
  | ind number ih =>
      by_cases small : number < 10
      · refine ⟨number, [], ofNat_of_lt small, ?_⟩
        have all : ∀ digit < 10, 0 < digit → (Digit.point 10 digit).is '0' = false := by
          decide
        exact all number small positive
      · rcases ih (number / 10) (by omega) (by omega) with ⟨digit, rest, shape, noZero⟩
        refine ⟨digit, rest ++ [Digit.point 10 number], ?_, noZero⟩
        rw [ofNat_of_le (by omega), shape, List.cons_append]

/-- A number begins with a digit. -/
theorem exists_cons_ofNat (number : Nat) :
    ∃ digit others, ofNat number = Digit.point 10 digit :: others := by
  rcases Nat.eq_zero_or_pos number with rfl | positive
  · exact ⟨0, [], rfl⟩
  · rcases exists_first_of_ofNat positive with ⟨digit, others, shape, _⟩
    exact ⟨digit, others, shape⟩

end Text

namespace Json

/-- What can stand behind a value: nothing, or a mark that ends it. -/
def Follows (rest : Text) : Prop :=
  ∀ point behind, rest = point :: behind → point ∈ [.scalar ',', .scalar ']', .scalar '\x7d']

theorem follows_nil : Follows [] := by
  rintro point behind ⟨⟩

theorem follows_comma (behind : Text) : Follows (.scalar ',' :: behind) := by
  rintro point others ⟨⟩
  simp

theorem follows_bracket (behind : Text) : Follows (.scalar ']' :: behind) := by
  rintro point others ⟨⟩
  simp

theorem follows_brace (behind : Text) : Follows (.scalar '\x7d' :: behind) := by
  rintro point others ⟨⟩
  simp

section

variable {rest : Text} {number : Nat}

/-- No blank stands behind a value. -/
theorem skipSpace_of_follows (follows : Follows rest) : skipSpace rest = rest := by
  cases rest with
  | nil => rfl
  | cons point behind =>
      have mark := follows point behind rfl
      simp only [List.mem_cons, List.not_mem_nil, or_false] at mark
      rcases mark with rfl | rfl | rfl <;> rfl

/-- No digit goes on here. -/
def EndsDigits (rest : Text) : Prop :=
  ∀ point behind, rest = point :: behind → point.asciiDigit? = none

theorem endsDigits_cons {point : CodePoint} (other : point.asciiDigit? = none) (behind : Text) :
    EndsDigits (point :: behind) := by
  rintro _ _ ⟨⟩
  exact other

theorem endsDigits_of_follows (follows : Follows rest) : EndsDigits rest := by
  intro point behind shape
  have mark := follows point behind shape
  simp only [List.mem_cons, List.not_mem_nil, or_false] at mark
  rcases mark with rfl | rfl | rfl <;> rfl

theorem spanFraction_of_follows (follows : Follows rest) : spanFraction rest = ([], rest) := by
  cases rest with
  | nil => rfl
  | cons point behind =>
      have mark := follows point behind rfl
      simp only [List.mem_cons, List.not_mem_nil, or_false] at mark
      rcases mark with rfl | rfl | rfl <;> rfl

theorem spanExponent_of_follows (follows : Follows rest) :
    spanExponent rest = (false, [], [], rest) := by
  cases rest with
  | nil => rfl
  | cons point behind =>
      have mark := follows point behind rfl
      simp only [List.mem_cons, List.not_mem_nil, or_false] at mark
      rcases mark with rfl | rfl | rfl <;> rfl

theorem spanDigits_append {digits : Text} (all : digits.IsDigits) (ends : EndsDigits rest) :
    spanDigits (digits ++ rest) = (digits, rest) := by
  induction digits with
  | nil =>
      cases rest with
      | nil => rfl
      | cons point behind => simp [spanDigits, ends point behind rfl]
  | cons point others ih =>
      rcases all point (by simp) with ⟨digit, rfl⟩
      rw [List.cons_append, spanDigits, ih fun other listed => all other (by simp [listed])]
      simp

theorem spanWhole_ofNat (number : Nat) (follows : Follows rest) :
    spanWhole (Text.ofNat number ++ rest) = (Text.ofNat number, rest) := by
  rcases Nat.eq_zero_or_pos number with rfl | positive
  · rfl
  · have spanned : spanDigits (Text.ofNat number ++ rest) = (Text.ofNat number, rest) :=
      spanDigits_append (Text.isDigits_ofNat number) (endsDigits_of_follows follows)
    rcases Text.exists_first_of_ofNat positive with ⟨digit, others, shape, noZero⟩
    rw [shape] at spanned ⊢
    rw [List.cons_append, spanWhole, noZero, ← List.cons_append, spanned]
    rfl

theorem natOfDigits_append_singleton (digits : List Nat) (last : Nat) :
    natOfDigits (digits ++ [last]) = 10 * natOfDigits digits + last := by
  simp [natOfDigits]

/-- The digits of a number add up to it. -/
theorem natOfDigits_ofNat (number : Nat) :
    natOfDigits (digitValues (Text.ofNat number)) = number := by
  induction number using Nat.strongRecOn with
  | ind number ih =>
      by_cases small : number < 10
      · simp [Text.ofNat_of_lt small, digitValues, natOfDigits, Nat.mod_eq_of_lt small]
      · have front := ih (number / 10) (by omega)
        have last : digitValues [Digit.point 10 number] = [number % 10] := by
          simp [digitValues]
        simp only [digitValues] at front last
        rw [Text.ofNat_of_le (by omega), digitValues, List.filterMap_append, last,
          natOfDigits_append_singleton, front]
        omega

/-- An integer with not too many digits is read after its sign. -/
theorem readNumber_ofNat (negative : Bool) (start : Text)
    (short : (Text.ofNat number).length ≤ integerDigitLimit) (follows : Follows rest) :
    readNumber .values negative start (Text.ofNat number ++ rest) =
      .ok (.int (if negative then -number else number), rest) := by
  have filled : (Text.ofNat number).isEmpty = false := by
    rcases Text.exists_cons_ofNat number with ⟨digit, others, shape⟩
    rw [shape]
    rfl
  have notLong := Nat.not_lt.2 short
  simp only [readNumber, spanWhole_ofNat number follows, filled, spanFraction_of_follows follows,
    spanExponent_of_follows follows, natOfDigits_ofNat, notLong, List.isEmpty_nil, Bool.and_self,
    Bool.false_eq_true, if_false, if_true]

/-- No word begins with a digit, nor has a digit behind its sign. -/
theorem findSome?_words_digit (digit : Nat) (behind : Text) :
    (words.findSome? fun (word, value) =>
        (afterWord? word (Digit.point 10 digit :: behind)).map (value, ·)) = none ∧
      (words.findSome? fun (word, value) =>
        (afterWord? word (.scalar '-' :: Digit.point 10 digit :: behind)).map (value, ·)) =
          none := by
  have differ (char : Char) (other : (CodePoint.scalar char).asciiDigit? = none) :
      CodePoint.scalar char ≠ Digit.point 10 digit := by
    intro same
    have isMark := Digit.is_point char other digit
    rw [← same] at isMark
    simp at isMark
  constructor
  · simp [words, afterWord?, Text.ofString, differ 'n' rfl, differ 't' rfl, differ 'f' rfl,
      differ 'N' rfl, differ 'I' rfl, differ '-' rfl]
  · simp [words, afterWord?, Text.ofString, differ 'I' rfl]

theorem readScalar_digit (mode : NumberMode) (digit : Nat) (behind : Text) :
    readScalar mode (Digit.point 10 digit :: behind) =
      readNumber mode false (Digit.point 10 digit :: behind) (Digit.point 10 digit :: behind) := by
  have noMinus : (Digit.point 10 digit).is '-' = false := Digit.is_point '-' rfl digit
  rw [readScalar, (findSome?_words_digit digit behind).1]
  simp [noMinus]

theorem readScalar_minus (mode : NumberMode) (digit : Nat) (behind : Text) :
    readScalar mode (.scalar '-' :: Digit.point 10 digit :: behind) =
      readNumber mode true (.scalar '-' :: Digit.point 10 digit :: behind)
        (Digit.point 10 digit :: behind) := by
  rw [readScalar, (findSome?_words_digit digit behind).2]
  rfl

/-- A written integer is read back, whatever stands behind it. -/
theorem readScalar_ofInt {number : Int}
    (short : (Text.ofNat number.natAbs).length ≤ integerDigitLimit) (follows : Follows rest) :
    readScalar .values (Text.ofInt number ++ rest) = .ok (.int number, rest) := by
  rcases Text.exists_cons_ofNat number.natAbs with ⟨digit, others, shape⟩
  have reads (negative : Bool) (start : Text) :=
    @readNumber_ofNat rest _ negative start short follows
  rw [shape, List.cons_append] at reads
  by_cases negative : number < 0
  · have written : Text.ofInt number ++ rest =
        .scalar '-' :: Digit.point 10 digit :: (others ++ rest) := by
      simp [Text.ofInt, negative, Text.ofChar, shape]
    have value : -(number.natAbs : Int) = number := by omega
    rw [written, readScalar_minus, reads true, if_pos rfl, value]
  · have written : Text.ofInt number ++ rest = Digit.point 10 digit :: (others ++ rest) := by
      simp [Text.ofInt, negative, shape]
    have value : (number.natAbs : Int) = number := by omega
    rw [written, readScalar_digit, reads false, if_neg Bool.false_ne_true, value]

end

end Json

end FleetGate
