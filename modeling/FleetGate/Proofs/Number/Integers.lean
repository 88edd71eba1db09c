import FleetGate.Proofs.Number.Values
import FleetGate.Token.Window
import Mathlib.Data.List.TakeWhile
import Mathlib.Data.Rat.Floor

/-!
# Integers in values

A value counts as an integer in four ways: an integer is itself, a flag is 0 or 1, a fraction loses
what stands behind its point, and a text counts as what it spells. The grammar of such a text is
`Text.Spells`: white space, perhaps a sign, digits of any script with single underscores between
them, white space. Reading accepts exactly the texts of this grammar and exactly the values of
`Json.CountsAs`.

No digit is white space or a sign. So the white space ends where the number begins, and cutting it
off at both ends leaves the number as it was.
-/

namespace FleetGate

namespace CodePoint

variable {point : CodePoint} {digit : Nat}

theorem exists_zero_of_digit? (reads : point.digit? = some digit) :
    ∃ first ∈ decimalZeros, ∃ step < 10, point.value = first + step := by
  simp only [digit?, Option.map_eq_some_iff] at reads
  rcases reads with ⟨first, found, _⟩
  have inside := List.find?_some found
  simp only [Bool.and_eq_true, decide_eq_true_eq] at inside
  exact ⟨first, List.mem_of_find?_eq_some found, point.value - first, by omega, by omega⟩

theorem isSpace_of_digit? (reads : point.digit? = some digit) : point.isSpace = false := by
  rcases exists_zero_of_digit? reads with ⟨first, listed, step, small, value⟩
  have apart : ∀ other ∈ decimalZeros, other = 0x30 ∨ 0x660 ≤ other ∧
      (other + 9 < 0x1680 ∨ 0x1680 < other) ∧ (other + 9 < 0x2000 ∨ 0x3000 < other) := by
    decide
  have clear := apart first listed
  simp only [isSpace, isBlank, value]
  simp
  omega

theorem is_of_digit? {mark : Char} (reads : point.digit? = some digit)
    (notDigit : (CodePoint.scalar mark).digit? = none) : point.is mark = false := by
  by_contra isMark
  rw [Bool.not_eq_false, is_eq_true_iff] at isMark
  rw [isMark, notDigit] at reads
  cases reads

end CodePoint

namespace Text

/-- Every point of a text may stand around a number. -/
def IsSpace (text : Text) : Prop :=
  ∀ point ∈ text, point.isSpace = true

/-- An optional sign, and whether it is a minus. -/
inductive IsSign : Text → Bool → Prop where
  | absent : IsSign [] false
  | plus : IsSign [.scalar '+'] false
  | minus : IsSign [.scalar '-'] true

/-- Digits one after the other, of which any two may have one underscore between them. -/
inductive Numeral : Text → List Nat → Prop where
  | last {point : CodePoint} {digit : Nat} (reads : point.digit? = some digit) :
      Numeral [point] [digit]
  | next {point : CodePoint} {digit : Nat} {rest : Text} {digits : List Nat}
      (reads : point.digit? = some digit) (more : Numeral rest digits) :
      Numeral (point :: rest) (digit :: digits)
  | gap {point : CodePoint} {digit : Nat} {rest : Text} {digits : List Nat}
      (reads : point.digit? = some digit) (more : Numeral rest digits) :
      Numeral (point :: .scalar '_' :: rest) (digit :: digits)

/-- A text spells an integer in not too many digits. -/
inductive Spells (text : Text) (number : Int) : Prop where
  | parts {before sign numeral after : Text} {negative : Bool} {digits : List Nat}
      (whole : text = before ++ (sign ++ numeral) ++ after)
      (spaceBefore : IsSpace before) (spaceAfter : IsSpace after)
      (signed : IsSign sign negative) (numbered : Numeral numeral digits)
      (short : digits.length ≤ integerDigitLimit)
      (value : number = if negative then -(natOfDigits digits : Int) else natOfDigits digits)

/-! ## Digits -/

/-- Behind a digit the number may end, go on, or go on after an underscore. -/
theorem groupedDigits?_eq_some_iff (text : Text) (digits : List Nat) :
    (groupedDigits? false text = some digits ↔ Numeral text digits) ∧
      (groupedDigits? true text = some digits ↔
        text = [] ∧ digits = [] ∨ Numeral text digits ∨
          ∃ rest, text = .scalar '_' :: rest ∧ Numeral rest digits) := by
  induction text generalizing digits with
  | nil =>
      refine ⟨iff_of_false (by simp [groupedDigits?]) (by rintro ⟨⟩), ?_⟩
      constructor
      · intro read
        simp only [groupedDigits?, if_true, Option.some.injEq] at read
        exact Or.inl ⟨rfl, read.symm⟩
      · rintro (⟨_, rfl⟩ | ⟨⟨⟩⟩ | ⟨rest, ⟨⟩, _⟩)
        rfl
  | cons point rest ih =>
      have noBar : (CodePoint.scalar '_').digit? = none := by decide
      cases reads : point.digit? with
      | some digit =>
          have notBar := CodePoint.is_of_digit? reads noBar
          have numeral_iff : (groupedDigits? true rest).map (digit :: ·) = some digits ↔
              Numeral (point :: rest) digits := by
            rw [Option.map_eq_some_iff]
            constructor
            · rintro ⟨others, read, rfl⟩
              rcases (ih others).2.1 read with ⟨rfl, rfl⟩ | more | ⟨behind, rfl, more⟩
              · exact .last reads
              · exact .next reads more
              · exact .gap reads more
            · intro numeral
              cases numeral with
              | last own =>
                  rw [reads, Option.some.injEq] at own
                  exact ⟨[], rfl, by rw [own]⟩
              | next own more =>
                  rw [reads, Option.some.injEq] at own
                  exact ⟨_, (ih _).2.2 (Or.inr (Or.inl more)), by rw [own]⟩
              | gap own more =>
                  rw [reads, Option.some.injEq] at own
                  exact ⟨_, (ih _).2.2 (Or.inr (Or.inr ⟨_, rfl, more⟩)), by rw [own]⟩
          simp only [groupedDigits?, reads, numeral_iff, true_and]
          constructor
          · intro numeral
            exact Or.inr (Or.inl numeral)
          · rintro (⟨⟨⟩, _⟩ | numeral | ⟨behind, same, _⟩)
            · exact numeral
            · rw [List.cons.injEq] at same
              rw [same.1] at notBar
              cases notBar
      | none =>
          have notNumeral : ¬Numeral (point :: rest) digits := by
            intro numeral
            cases numeral <;> simp_all
          refine ⟨iff_of_false (by simp [groupedDigits?, reads]) notNumeral, ?_⟩
          by_cases isBar : point.is '_' = true
          · have same := (CodePoint.is_eq_true_iff point '_').1 isBar
            subst same
            simp only [groupedDigits?, reads, CodePoint.is_scalar, BEq.rfl, Bool.and_self, if_true,
              (ih digits).1]
            simp [notNumeral]
          · refine iff_of_false (by simp [groupedDigits?, reads, isBar]) ?_
            rintro (⟨⟨⟩, _⟩ | numeral | ⟨behind, same, _⟩)
            · exact notNumeral numeral
            · rw [List.cons.injEq] at same
              exact isBar ((CodePoint.is_eq_true_iff point '_').2 same.1)

variable {text numeral : Text} {digits : List Nat}

/-- A number starts with a digit. -/
theorem Numeral.exists_head (numbered : Numeral numeral digits) :
    ∃ point rest digit, numeral = point :: rest ∧ point.digit? = some digit := by
  cases numbered with
  | last reads => exact ⟨_, _, _, rfl, reads⟩
  | next reads _ => exact ⟨_, _, _, rfl, reads⟩
  | gap reads _ => exact ⟨_, _, _, rfl, reads⟩

/-- A number ends with a digit. -/
theorem Numeral.exists_last (numbered : Numeral numeral digits) :
    ∃ others point digit, numeral = others ++ [point] ∧ point.digit? = some digit := by
  induction numbered with
  | last reads => exact ⟨[], _, _, rfl, reads⟩
  | next _ _ ih =>
      rcases ih with ⟨others, point, digit, rfl, reads⟩
      exact ⟨_ :: others, point, digit, rfl, reads⟩
  | gap _ _ ih =>
      rcases ih with ⟨others, point, digit, rfl, reads⟩
      exact ⟨_ :: _ :: others, point, digit, rfl, reads⟩

/-! ## White space and sign -/

/-- Cutting the white space off leaves what stands between it. -/
theorem trimSpace_append {before core after : Text} (spaceBefore : IsSpace before)
    (spaceAfter : IsSpace after)
    (first : ∃ point rest, core = point :: rest ∧ point.isSpace = false)
    (last : ∃ others point, core = others ++ [point] ∧ point.isSpace = false) :
    trimSpace (before ++ core ++ after) = core := by
  have cutBefore : (before ++ core ++ after).dropWhile (·.isSpace) = core ++ after := by
    rcases first with ⟨point, rest, rfl, notSpace⟩
    rw [List.append_assoc, List.dropWhile_append_of_pos spaceBefore, List.cons_append,
      List.dropWhile_cons_of_neg (by simp [notSpace])]
  rcases last with ⟨others, point, rfl, notSpace⟩
  have spaceReversed : ∀ other ∈ after.reverse, other.isSpace = true := by
    intro other other_mem
    exact spaceAfter other (List.mem_reverse.1 other_mem)
  rw [trimSpace, cutBefore, List.reverse_append, List.dropWhile_append_of_pos spaceReversed,
    List.reverse_append, List.reverse_singleton, List.singleton_append,
    List.dropWhile_cons_of_neg (by simp [notSpace])]
  simp

/-- Nothing but white space is cut off. -/
theorem exists_trimSpace (text : Text) :
    ∃ before after, text = before ++ trimSpace text ++ after ∧ IsSpace before ∧
      IsSpace after := by
  let rest := text.dropWhile (·.isSpace)
  refine ⟨text.takeWhile (·.isSpace), (rest.reverse.takeWhile (·.isSpace)).reverse, ?_, ?_, ?_⟩
  · have cut : trimSpace text ++ (rest.reverse.takeWhile (·.isSpace)).reverse = rest := by
      rw [trimSpace, ← List.reverse_append, List.takeWhile_append_dropWhile, List.reverse_reverse]
    rw [List.append_assoc, cut, List.takeWhile_append_dropWhile]
  · intro point point_mem
    exact List.mem_takeWhile_imp point_mem
  · intro point point_mem
    rw [List.mem_reverse] at point_mem
    exact List.mem_takeWhile_imp point_mem

/-- Taking the sign off leaves the rest of the text. -/
theorem exists_takeSign (text : Text) :
    ∃ sign, text = sign ++ (takeSign text).2 ∧ IsSign sign (takeSign text).1 := by
  cases text with
  | nil => exact ⟨[], rfl, .absent⟩
  | cons point rest =>
      by_cases isMinus : point.is '-' = true
      · have same := (CodePoint.is_eq_true_iff point '-').1 isMinus
        subst same
        exact ⟨[.scalar '-'], rfl, .minus⟩
      · by_cases isPlus : point.is '+' = true
        · have same := (CodePoint.is_eq_true_iff point '+').1 isPlus
          subst same
          exact ⟨[.scalar '+'], rfl, .plus⟩
        · refine ⟨[], ?_, ?_⟩
          · simp [takeSign, isMinus, isPlus]
          · simp only [takeSign, isMinus, isPlus]
            exact .absent

theorem takeSign_append {sign : Text} {negative : Bool} (signed : IsSign sign negative)
    (numbered : Numeral numeral digits) : takeSign (sign ++ numeral) = (negative, numeral) := by
  cases signed with
  | plus => rfl
  | minus => rfl
  | absent =>
      rcases numbered.exists_head with ⟨point, rest, digit, rfl, reads⟩
      have notMinus : point.is '-' = false := CodePoint.is_of_digit? reads (by decide)
      have notPlus : point.is '+' = false := CodePoint.is_of_digit? reads (by decide)
      simp [takeSign, notMinus, notPlus]

/-- Neither end of a signed number is white space. -/
theorem trimSpace_number {before sign after : Text} {negative : Bool}
    (spaceBefore : IsSpace before) (spaceAfter : IsSpace after) (signed : IsSign sign negative)
    (numbered : Numeral numeral digits) :
    trimSpace (before ++ (sign ++ numeral) ++ after) = sign ++ numeral := by
  apply trimSpace_append spaceBefore spaceAfter
  · cases signed with
    | plus => exact ⟨_, _, rfl, by decide⟩
    | minus => exact ⟨_, _, rfl, by decide⟩
    | absent =>
        rcases numbered.exists_head with ⟨point, rest, digit, rfl, reads⟩
        exact ⟨point, rest, rfl, CodePoint.isSpace_of_digit? reads⟩
  · rcases numbered.exists_last with ⟨others, point, digit, rfl, reads⟩
    exact ⟨sign ++ others, point, by simp, CodePoint.isSpace_of_digit? reads⟩

/-- An integer is read out of exactly the texts that spell it. -/
theorem toInt?_eq_some_iff {number : Int} : toInt? text = some number ↔ Spells text number := by
  constructor
  · intro read
    rcases exists_trimSpace text with ⟨before, after, whole, spaceBefore, spaceAfter⟩
    rcases exists_takeSign (trimSpace text) with ⟨sign, cut, signed⟩
    cases grouped : groupedDigits? false (takeSign (trimSpace text)).2 with
    | none => simp [toInt?, grouped] at read
    | some digits =>
        simp only [toInt?, grouped] at read
        split at read
        · cases read
        · rename_i short
          rw [Option.some.injEq] at read
          rw [cut] at whole
          exact .parts whole spaceBefore spaceAfter signed
            ((groupedDigits?_eq_some_iff _ digits).1.1 grouped) (by omega) read.symm
  · rintro ⟨rfl, spaceBefore, spaceAfter, signed, numbered, short, rfl⟩
    have grouped := (groupedDigits?_eq_some_iff _ _).1.2 numbered
    have notLong := Nat.not_lt.2 short
    simp only [toInt?, trimSpace_number spaceBefore spaceAfter signed numbered,
      takeSign_append signed numbered, grouped, notLong, if_false]

end Text

/-! ## Values -/

namespace Binary

theorem floor_toRatio (binary : Binary) : (binary.toRatio.floor : Int) = ⌊binary.value⌋ := by
  rw [← binary.value_toRatio, Ratio.value, Rat.floor_natCast_div_natCast]
  rfl

end Binary

namespace Json

/-- A value counts as an integer. A fraction is cut off towards zero. -/
inductive CountsAs : Json → Int → Prop where
  | integer (number : Int) : CountsAs (.int number) number
  | yes : CountsAs (.bool true) 1
  | no : CountsAs (.bool false) 0
  | zero {number : Float} {negative : Bool} (parts : FloatParts.ofFloat number = .zero negative) :
      CountsAs (.float number) 0
  | above {number : Float} {magnitude : Binary}
      (parts : FloatParts.ofFloat number = .finite false magnitude) :
      CountsAs (.float number) ⌊magnitude.value⌋
  | below {number : Float} {magnitude : Binary}
      (parts : FloatParts.ofFloat number = .finite true magnitude) :
      CountsAs (.float number) (-⌊magnitude.value⌋)
  | text {text : Text} {number : Int} (spells : text.Spells number) :
      CountsAs (.string text) number

/-- Exactly the values that count as an integer are converted to it. -/
theorem toInt_eq_ok_iff {value : Json} {number : Int} :
    value.toInt = .ok number ↔ CountsAs value number := by
  constructor
  · intro converted
    cases value with
    | int own =>
        cases converted
        exact .integer number
    | bool flag =>
        cases converted
        cases flag
        · exact .no
        · exact .yes
    | float own =>
        cases parts : FloatParts.ofFloat own with
        | nan => simp [toInt, parts] at converted
        | infinite negative => simp [toInt, parts] at converted
        | zero negative =>
            simp only [toInt, parts, Except.ok.injEq] at converted
            subst converted
            exact .zero parts
        | finite negative magnitude =>
            simp only [toInt, parts, Except.ok.injEq, truncated, Binary.floor_toRatio] at converted
            subst converted
            cases negative
            · exact .above parts
            · exact .below parts
    | string own =>
        cases read : own.toInt? with
        | none => simp [toInt, read] at converted
        | some other =>
            simp only [toInt, read, Except.ok.injEq] at converted
            subst converted
            exact .text (Text.toInt?_eq_some_iff.1 read)
    | _ => cases converted
  · intro counts
    cases counts with
    | integer => rfl
    | yes => rfl
    | no => rfl
    | zero parts => simp [toInt, parts]
    | above parts => simp [toInt, parts, truncated, Binary.floor_toRatio]
    | below parts => simp [toInt, parts, truncated, Binary.floor_toRatio]
    | text spells => simp [toInt, Text.toInt?_eq_some_iff.2 spells]

end Json

end FleetGate
