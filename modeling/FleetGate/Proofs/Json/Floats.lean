import FleetGate.Json.Writer
import FleetGate.Proofs.Json.Numbers
import FleetGate.Proofs.Number.Shortest

/-!
# Doubles in decimal digits

A finite double is written as its shortest decimal, in one of several layouts. The reader takes the
digits in front of the point, those behind it and those of the exponent, and puts them together to a
decimal with the same value. This decimal lies in the interval of the double, so the double is read
back.
-/

namespace FleetGate

/-! ## Digits -/

theorem natOfDigits_append (left right : List Nat) :
    natOfDigits (left ++ right) = natOfDigits left * 10 ^ right.length + natOfDigits right := by
  induction right using List.reverseRecOn with
  | nil => simp [natOfDigits]
  | append_singleton front last ih =>
      rw [← List.append_assoc, Json.natOfDigits_append_singleton, ih,
        Json.natOfDigits_append_singleton, List.length_append, List.length_singleton, pow_succ]
      ring

theorem natOfDigits_replicate_zero (count : Nat) : natOfDigits (List.replicate count 0) = 0 := by
  induction count with
  | zero => rfl
  | succ count ih => rw [List.replicate_succ', Json.natOfDigits_append_singleton, ih]

namespace Text

variable {left right : Text}

theorem isDigits_append : IsDigits (left ++ right) ↔ IsDigits left ∧ IsDigits right := by
  simp only [IsDigits, List.mem_append, or_imp, forall_and]

/-- Zeros one after the other. -/
def zeros (count : Nat) : Text :=
  List.replicate count (Digit.point 10 0)

theorem isDigits_zeros (count : Nat) : IsDigits (zeros count) :=
  fun _ listed => ⟨0, List.eq_of_mem_replicate listed⟩

/-- The number that digits stand for. -/
def digitsValue (text : Text) : Nat :=
  natOfDigits (Json.digitValues text)

theorem length_digitValues (digits : IsDigits left) :
    (Json.digitValues left).length = left.length := by
  induction left with
  | nil => rfl
  | cons point others ih =>
      rcases digits point (by simp) with ⟨digit, rfl⟩
      have rest := ih fun other listed => digits other (by simp [listed])
      simp only [Json.digitValues] at rest
      simp [Json.digitValues, rest]

theorem digitsValue_append (digits : IsDigits right) :
    digitsValue (left ++ right) = digitsValue left * 10 ^ right.length + digitsValue right := by
  rw [digitsValue, Json.digitValues, List.filterMap_append, natOfDigits_append]
  have same := length_digitValues digits
  rw [Json.digitValues] at same
  rw [same]
  rfl

theorem digitsValue_zeros (count : Nat) : digitsValue (zeros count) = 0 := by
  have values : Json.digitValues (zeros count) = List.replicate count 0 := by
    simp [Json.digitValues, zeros]
  rw [digitsValue, values, natOfDigits_replicate_zero]

theorem digitsValue_ofNat (number : Nat) : digitsValue (ofNat number) = number :=
  Json.natOfDigits_ofNat number

end Text

/-! ## Parts of a number -/

namespace Json

variable {whole fraction behind rest : Text}

/-- Digits in front of the point: a zero alone, or digits that do not begin with one. -/
def IsWhole (whole : Text) : Prop :=
  whole.IsDigits ∧ ∃ first others, whole = first :: others ∧ (first.is '0' = true → others = [])

theorem isWhole_zero : IsWhole [Digit.point 10 0] :=
  ⟨fun _ listed => ⟨0, List.mem_singleton.1 listed⟩, _, [], rfl, fun _ => rfl⟩

theorem isWhole_singleton (digit : Nat) : IsWhole [Digit.point 10 digit] :=
  ⟨fun _ listed => ⟨digit, List.mem_singleton.1 listed⟩, _, [], rfl, fun _ => rfl⟩

theorem spanWhole_append (isWhole : IsWhole whole) (ends : EndsDigits rest) :
    spanWhole (whole ++ rest) = (whole, rest) := by
  rcases isWhole with ⟨digits, first, others, rfl, alone⟩
  rw [List.cons_append, spanWhole]
  by_cases isZero : first.is '0' = true
  · rw [if_pos isZero, alone isZero]
    rfl
  · rw [if_neg isZero, ← List.cons_append, spanDigits_append digits ends]

theorem spanFraction_append (filled : fraction ≠ []) (digits : fraction.IsDigits)
    (ends : EndsDigits rest) :
    spanFraction (.scalar '.' :: (fraction ++ rest)) = (fraction, rest) := by
  rw [spanFraction, spanDigits_append digits ends]
  rcases List.exists_cons_of_ne_nil filled with ⟨first, others, rfl⟩
  rfl

/-- The sign of an exponent, which is always written. -/
def exponentSign (exponent : Int) : CodePoint :=
  .scalar (if exponent < 0 then '-' else '+')

theorem spanExponent_append (exponent : Int) {digits : Text} (filled : digits ≠ [])
    (isDigits : digits.IsDigits) (ends : EndsDigits rest) :
    ∃ text, spanExponent (.scalar 'e' :: exponentSign exponent :: (digits ++ rest)) =
      (decide (exponent < 0), digits, text, rest) := by
  have signed : Text.takeSign (exponentSign exponent :: (digits ++ rest)) =
      (decide (exponent < 0), digits ++ rest) := by
    by_cases negative : exponent < 0 <;> simp [exponentSign, Text.takeSign, negative]
  rcases List.exists_cons_of_ne_nil filled with ⟨first, others, rfl⟩
  simp only [spanExponent, signed, spanDigits_append isDigits ends]
  exact ⟨_, rfl⟩

/-- A number with a fraction or an exponent is read as a double. -/
theorem readNumber_of_spans {text afterWhole afterFraction exponent exponentText : Text}
    {exponentNegative : Bool} (negative : Bool) (start : Text) (some : whole ≠ [])
    (spanned : spanWhole text = (whole, afterWhole))
    (behindPoint : spanFraction afterWhole = (fraction, afterFraction))
    (scaled : spanExponent afterFraction = (exponentNegative, exponent, exponentText, rest))
    (notInteger : fraction ≠ [] ∨ exponent ≠ []) :
    readNumber .values negative start text =
      .ok (.float (Decimal.toFloat ⟨Text.digitsValue (whole ++ fraction),
        (if exponentNegative then -(Text.digitsValue exponent : Int)
          else Text.digitsValue exponent) - fraction.length⟩ negative), rest) := by
  have filled : whole.isEmpty = false := List.isEmpty_eq_false_iff.2 some
  have other : (fraction.isEmpty && exponent.isEmpty) = false := by
    rw [Bool.and_eq_false_iff, List.isEmpty_eq_false_iff, List.isEmpty_eq_false_iff]
    exact notInteger
  simp only [readNumber, spanned, behindPoint, scaled, filled, other, Bool.false_eq_true, if_false]
  rfl

/-! ## Layouts -/

/-- Characters begin with a digit and are read as a double with a value, whatever sign it has. -/
def SpellsDouble (chars : List Char) (value : ℚ) : Prop :=
  (∃ digit others, chars.map .scalar = Digit.point 10 digit :: others) ∧
    ∃ decimal : Decimal, decimal.value = value ∧ ∀ negative start rest, Follows rest →
      readNumber .values negative start (chars.map .scalar ++ rest) =
        .ok (.float (decimal.toFloat negative), rest)

/-- A number with a point and no exponent. -/
theorem spellsDouble_point (whole fraction : Text) {chars : List Char} {value : ℚ}
    (isWhole : IsWhole whole)
    (filled : fraction ≠ []) (digits : fraction.IsDigits)
    (shape : chars.map .scalar = whole ++ .scalar '.' :: fraction)
    (same : Decimal.value ⟨Text.digitsValue (whole ++ fraction), -fraction.length⟩ = value) :
    SpellsDouble chars value := by
  have noPoint : (CodePoint.scalar '.').asciiDigit? = none := rfl
  constructor
  · rcases isWhole with ⟨all, first, others, rfl, _⟩
    rcases all first (by simp) with ⟨digit, rfl⟩
    exact ⟨digit, others ++ .scalar '.' :: fraction, by rw [shape, List.cons_append]⟩
  · refine ⟨_, same, fun negative start rest follows => ?_⟩
    have some : whole ≠ [] := by
      rcases isWhole with ⟨_, first, others, rfl, _⟩
      simp
    have spanned := spanWhole_append isWhole
      (endsDigits_cons noPoint (fraction ++ rest))
    have behindPoint := spanFraction_append filled digits (endsDigits_of_follows follows)
    rw [shape, List.append_assoc, List.cons_append,
      readNumber_of_spans negative start some spanned behindPoint (spanExponent_of_follows follows)
        (Or.inl filled)]
    simp [Text.digitsValue, digitValues, natOfDigits]

/-- A point if there are digits behind it. -/
def pointed (fraction : Text) : Text :=
  if fraction = [] then [] else .scalar '.' :: fraction

/-- A number with an exponent, and with a point if there are digits behind it. -/
theorem spellsDouble_exponent {chars : List Char} {value : ℚ} {exponent : Int} {digits : Text}
    (isWhole : IsWhole whole) (all : fraction.IsDigits) (filled : digits ≠ [])
    (isDigits : digits.IsDigits)
    (shape : chars.map .scalar =
      whole ++ (pointed fraction ++ .scalar 'e' :: exponentSign exponent :: digits))
    (counted : Text.digitsValue digits = exponent.natAbs)
    (same : Decimal.value ⟨Text.digitsValue (whole ++ fraction), exponent - fraction.length⟩ =
      value) :
    SpellsDouble chars value := by
  have noLetter : (CodePoint.scalar 'e').asciiDigit? = none := rfl
  constructor
  · rcases isWhole with ⟨allWhole, first, others, rfl, _⟩
    rcases allWhole first (by simp) with ⟨digit, rfl⟩
    exact ⟨digit, _, by rw [shape, List.cons_append]⟩
  · refine ⟨_, same, fun negative start rest follows => ?_⟩
    have some : whole ≠ [] := by
      rcases isWhole with ⟨_, first, others, rfl, _⟩
      simp
    rcases spanExponent_append exponent filled isDigits
      (endsDigits_of_follows follows) with ⟨text, scaled⟩
    have ends := endsDigits_cons noLetter (exponentSign exponent :: (digits ++ rest))
    have signed : (if decide (exponent < 0) = true then -(Text.digitsValue digits : Int)
        else Text.digitsValue digits) = exponent := by
      rw [counted]
      by_cases negative : exponent < 0
      · rw [if_pos (decide_eq_true negative)]
        omega
      · rw [if_neg (by simpa using negative)]
        omega
    have spans : spanWhole (chars.map .scalar ++ rest) =
          (whole, pointed fraction ++ .scalar 'e' :: exponentSign exponent :: (digits ++ rest)) ∧
        spanFraction
            (pointed fraction ++ .scalar 'e' :: exponentSign exponent :: (digits ++ rest)) =
          (fraction, .scalar 'e' :: exponentSign exponent :: (digits ++ rest)) := by
      rw [shape, List.append_assoc, List.append_assoc, List.cons_append, List.cons_append]
      by_cases nothing : fraction = []
      · rw [pointed, if_pos nothing, nothing]
        exact ⟨spanWhole_append isWhole ends, rfl⟩
      · rw [pointed, if_neg nothing]
        exact ⟨spanWhole_append isWhole (endsDigits_cons rfl _),
          spanFraction_append nothing all ends⟩
    rw [readNumber_of_spans negative start some spans.1 spans.2 scaled (Or.inr filled), signed]

section

variable {decimal : Decimal}

theorem length_ofNat (number : Nat) :
    (Text.ofNat number).length = (Nat.toDigits 10 number).length := by
  rw [Text.ofNat, List.length_map]

theorem pointPosition_eq (decimal : Decimal) :
    decimal.pointPosition = (Text.ofNat decimal.digits).length + decimal.exponent := by
  rw [length_ofNat, Decimal.pointPosition]

theorem map_replicate_zero (count : Nat) :
    (List.replicate count '0').map CodePoint.scalar = Text.zeros count := by
  rw [List.map_replicate]
  rfl

/-- A number that is not zero does not begin with a zero, and neither does anything in front of a
point in it. -/
theorem isWhole_of_ofNat (some : 0 < decimal.digits) {whole before after : Text}
    (digits : whole.IsDigits) (filled : before ≠ [])
    (shape : Text.ofNat decimal.digits = before ++ after) (begins : before <+: whole) :
    IsWhole whole := by
  rcases Text.exists_first_of_ofNat some with ⟨digit, others, first, noZero⟩
  rcases List.exists_cons_of_ne_nil filled with ⟨point, more, rfl⟩
  rcases begins with ⟨behind, rfl⟩
  rw [shape, List.cons_append, List.cons.injEq] at first
  refine ⟨digits, point, more ++ behind, rfl, fun isZero => ?_⟩
  rw [first.1, noZero] at isZero
  cases isZero

theorem ofNat_ne_nil (number : Nat) : Text.ofNat number ≠ [] := by
  rcases Text.exists_cons_ofNat number with ⟨_, _, shape⟩
  simp [shape]

theorem value_mk {digits : Nat} {exponent : Int} (sameDigits : digits = decimal.digits)
    (sameExponent : exponent = decimal.exponent) :
    Decimal.value ⟨digits, exponent⟩ = decimal.value := by
  rw [sameDigits, sameExponent]

/-- Zeros in front of digits do not count. -/
theorem digitsValue_zeros_append (count number : Nat) :
    Text.digitsValue (Text.zeros count ++ Text.ofNat number) = number := by
  rw [Text.digitsValue_append (Text.isDigits_ofNat _), Text.digitsValue_zeros, Nat.zero_mul,
    Nat.zero_add, Text.digitsValue_ofNat]

/-- All digits behind the point. -/
theorem spellsDouble_below (low : decimal.pointPosition ≤ 0) :
    SpellsDouble ('0' :: '.' :: List.replicate decimal.pointPosition.natAbs '0' ++
      Nat.toDigits 10 decimal.digits) decimal.value := by
  have position := pointPosition_eq decimal
  refine spellsDouble_point [Digit.point 10 0]
    (Text.zeros decimal.pointPosition.natAbs ++ Text.ofNat decimal.digits)
    isWhole_zero (by simp [ofNat_ne_nil])
    (Text.isDigits_append.2 ⟨Text.isDigits_zeros _, Text.isDigits_ofNat _⟩) ?_ (value_mk ?_ ?_)
  · simp only [List.cons_append, List.map_cons, List.map_append, map_replicate_zero, Text.ofNat]
    rfl
  · rw [← List.append_assoc]
    exact digitsValue_zeros_append (decimal.pointPosition.natAbs + 1) _
  · rw [List.length_append, Text.zeros, List.length_replicate]
    omega

/-- All digits in front of the point. -/
theorem spellsDouble_above (some : 0 < decimal.digits) {count : Nat}
    (high : decimal.exponent = count) :
    SpellsDouble (Nat.toDigits 10 decimal.digits ++ List.replicate count '0' ++ ['.', '0'])
      decimal.value := by
  have digits : (Text.ofNat decimal.digits ++ Text.zeros count).IsDigits :=
    Text.isDigits_append.2 ⟨Text.isDigits_ofNat _, Text.isDigits_zeros _⟩
  refine spellsDouble_point (Text.ofNat decimal.digits ++ Text.zeros count) (Text.zeros 1)
    (isWhole_of_ofNat some digits (ofNat_ne_nil _) (List.append_nil _).symm
      (List.prefix_append _ _)) (by simp [Text.zeros]) (Text.isDigits_zeros _) ?_ ?_
  · simp only [List.map_append, map_replicate_zero, Text.ofNat, List.append_assoc]
    rfl
  · rw [Text.digitsValue_append (Text.isDigits_zeros _),
      Text.digitsValue_append (Text.isDigits_zeros _), Text.digitsValue_zeros,
      Text.digitsValue_zeros, Text.digitsValue_ofNat]
    simp only [Text.zeros, List.length_replicate, Decimal.value, high]
    push_cast
    rw [zpow_neg, zpow_natCast]
    field_simp
    simp

/-- The point among the digits. -/
theorem spellsDouble_inside (some : 0 < decimal.digits) {count : Nat} (positive : 0 < count)
    (position : decimal.pointPosition = count)
    (inside : count < (Nat.toDigits 10 decimal.digits).length) :
    SpellsDouble ((Nat.toDigits 10 decimal.digits).take count ++
      '.' :: (Nat.toDigits 10 decimal.digits).drop count) decimal.value := by
  have parts := List.take_append_drop count (Text.ofNat decimal.digits)
  have digits := Text.isDigits_ofNat decimal.digits
  rw [← parts, Text.isDigits_append] at digits
  rw [pointPosition_eq] at position
  rw [← length_ofNat] at inside
  have front : (Text.ofNat decimal.digits).take count ≠ [] := by
    rw [← List.length_pos_iff, List.length_take]
    omega
  have back : (Text.ofNat decimal.digits).drop count ≠ [] := by
    rw [← List.length_pos_iff, List.length_drop]
    omega
  refine spellsDouble_point _ _
    (isWhole_of_ofNat some digits.1 front parts.symm List.prefix_rfl) back digits.2 ?_
    (value_mk ?_ ?_)
  · simp [Text.ofNat, List.map_take, List.map_drop]
  · rw [parts, Text.digitsValue_ofNat]
  · rw [List.length_drop]
    omega

theorem spellsDouble_positional (some : 0 < decimal.digits) :
    SpellsDouble decimal.positional decimal.value := by
  have position := pointPosition_eq decimal
  have counted := length_ofNat decimal.digits
  unfold Decimal.positional
  dsimp only
  split
  · rename_i low
    exact spellsDouble_below low
  · split
    · exact spellsDouble_above some (by omega)
    · exact spellsDouble_inside some (by omega) (by omega) (by omega)

/-- A mantissa with an exponent, which may have zeros in front of its digits. -/
theorem spellsDouble_mantissa (decimal : Decimal) (count : Nat) :
    SpellsDouble (decimal.mantissa ++
      ('e' :: (if decimal.pointPosition - 1 < 0 then '-' else '+') ::
        List.replicate count '0' ++ Nat.toDigits 10 (decimal.pointPosition - 1).natAbs))
      decimal.value := by
  have position := pointPosition_eq decimal
  have whole := Text.isDigits_ofNat decimal.digits
  have number := Text.digitsValue_ofNat decimal.digits
  have power : (Text.zeros count ++ Text.ofNat (decimal.pointPosition - 1).natAbs).IsDigits :=
    Text.isDigits_append.2 ⟨Text.isDigits_zeros _, Text.isDigits_ofNat _⟩
  have behind : (('e' :: (if decimal.pointPosition - 1 < 0 then '-' else '+') ::
      List.replicate count '0' ++ Nat.toDigits 10 (decimal.pointPosition - 1).natAbs).map
        CodePoint.scalar) = .scalar 'e' :: exponentSign (decimal.pointPosition - 1) ::
          (Text.zeros count ++ Text.ofNat (decimal.pointPosition - 1).natAbs) := by
    simp only [List.cons_append, List.map_cons, List.map_append, map_replicate_zero, Text.ofNat]
    rfl
  rcases Text.exists_cons_ofNat decimal.digits with ⟨digit, others, shape⟩
  rw [shape] at whole number position
  have front :
      decimal.mantissa.map CodePoint.scalar = [Digit.point 10 digit] ++ pointed others := by
    rw [Text.ofNat, List.map_eq_cons_iff] at shape
    rcases shape with ⟨first, more, digits, isFirst, rfl⟩
    rw [Decimal.mantissa, digits]
    cases more <;> simp [isFirst, pointed]
  refine spellsDouble_exponent (isWhole_singleton digit)
    (fun point listed => whole point (by simp [listed])) (by simp [ofNat_ne_nil]) power ?_
    (digitsValue_zeros_append _ _) (value_mk number ?_)
  · rw [List.map_append, front, behind, List.append_assoc]
  · rw [List.length_cons] at position
    omega

theorem spellsDouble_plain (some : 0 < decimal.digits) :
    SpellsDouble decimal.plain decimal.value := by
  unfold Decimal.plain
  split
  · exact spellsDouble_positional some
  · exact spellsDouble_mantissa decimal _

theorem spellsDouble_brief (some : 0 < decimal.digits) :
    SpellsDouble decimal.brief decimal.value := by
  unfold Decimal.brief
  split
  · exact spellsDouble_positional some
  · exact spellsDouble_mantissa decimal 0

/-- Zero is written as a double too. -/
theorem spellsDouble_zero : SpellsDouble "0.0".toList 0 :=
  spellsDouble_point [Digit.point 10 0] [Digit.point 10 0]
    isWhole_zero (by simp) (Text.isDigits_zeros 1) rfl (by simp [Decimal.value]; rfl)

/-! ## Written doubles -/

/-- Behind its sign a double is read with the value that it spells. -/
theorem exists_readScalar_signed {chars : List Char} {value : ℚ} (spells : SpellsDouble chars value)
    (negative : Bool) (follows : Follows rest) :
    ∃ decimal : Decimal, decimal.value = value ∧
      readScalar .values (Text.ofString (FloatParts.signed negative chars) ++ rest) =
        .ok (.float (decimal.toFloat negative), rest) := by
  rcases spells with ⟨⟨digit, others, begins⟩, decimal, same, reads⟩
  refine ⟨decimal, same, ?_⟩
  cases negative with
  | false =>
      have own := reads false (Digit.point 10 digit :: (others ++ rest)) rest follows
      have shape : Text.ofString (FloatParts.signed false chars) ++ rest =
          Digit.point 10 digit :: (others ++ rest) := by
        simp [FloatParts.signed, Text.ofString, begins]
      rw [begins, List.cons_append] at own
      rw [shape, readScalar_digit, own]
  | true =>
      have own := reads true (.scalar '-' :: Digit.point 10 digit :: (others ++ rest)) rest follows
      have shape : Text.ofString (FloatParts.signed true chars) ++ rest =
          .scalar '-' :: Digit.point 10 digit :: (others ++ rest) := by
        simp [FloatParts.signed, Text.ofString, begins]
      rw [begins, List.cons_append] at own
      rw [shape, readScalar_minus, own]

variable {number : Float}

/-- A finite double is read back from every layout that spells its shortest decimal. -/
theorem readScalar_layout {layout : Decimal → List Char}
    (spells : ∀ decimal : Decimal, 0 < decimal.digits → SpellsDouble (layout decimal) decimal.value)
    {negative : Bool} {magnitude : Binary}
    (parts : FloatParts.ofFloat number = .finite negative magnitude) (follows : Follows rest) :
    readScalar .values
        (Text.ofString (FloatParts.signed negative (layout magnitude.shortest)) ++ rest) =
      .ok (.float number, rest) := by
  rcases exists_readScalar_signed (spells _ (FloatParts.digits_shortest_pos parts)) negative
    follows with ⟨decimal, same, reads⟩
  rw [reads, FloatParts.toFloat_of_value parts same]

theorem readScalar_signedZero {negative : Bool} (parts : FloatParts.ofFloat number = .zero negative)
    (follows : Follows rest) :
    readScalar .values (Text.ofString (FloatParts.signed negative "0.0".toList) ++ rest) =
      .ok (.float number, rest) := by
  rcases exists_readScalar_signed spellsDouble_zero negative follows with ⟨decimal, same, reads⟩
  have nothing : decimal.digits = 0 := by
    have power : (10 : ℚ) ^ decimal.exponent ≠ 0 := by positivity
    simpa [Decimal.value, power] using same
  rw [reads, FloatParts.toFloat_of_zero parts nothing]

theorem readScalar_writeFloat (finite : number.isFinite = true) (follows : Follows rest) :
    readScalar .values (writeFloat number ++ rest) = .ok (.float number, rest) := by
  rcases FloatParts.zero_or_finite_of_isFinite finite with
    ⟨negative, parts⟩ | ⟨negative, magnitude, parts⟩
  · rw [writeFloat, parts]
    exact readScalar_signedZero parts follows
  · rw [writeFloat, parts]
    exact readScalar_layout (fun _ => spellsDouble_plain) parts follows

theorem readScalar_writeBriefFloat (finite : number.isFinite = true) (follows : Follows rest) :
    readScalar .values (writeBriefFloat number ++ rest) = .ok (.float number, rest) := by
  rcases FloatParts.zero_or_finite_of_isFinite finite with
    ⟨negative, parts⟩ | ⟨negative, magnitude, parts⟩
  · rw [writeBriefFloat, parts]
    exact readScalar_signedZero parts follows
  · rw [writeBriefFloat, parts]
    exact readScalar_layout (fun _ => spellsDouble_brief) parts follows

end

end Json

end FleetGate
