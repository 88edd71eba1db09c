import FleetGate.Json.RecordFlaw
import FleetGate.Proofs.Json.RoundTrip

/-!
# Values that were read

The reader refuses integers of too many digits, and of the fields with one name it keeps one. So
what it reads is tidy (`Json.isTidy_of_readWhole`). A tidy value that a record has room for is
plain, as soon as null stands in place of every infinity and NaN, and that is how a record is
written anyway.
-/

namespace FleetGate

/-- Digits add up to less than the power of ten behind them. -/
theorem natOfDigits_lt {digits : List Nat} (small : ∀ digit ∈ digits, digit < 10) :
    natOfDigits digits < 10 ^ digits.length := by
  induction digits using List.reverseRecOn with
  | nil => decide
  | append_singleton front last ih =>
      have rest := ih fun digit listed => small digit (by simp [listed])
      have own := small last (by simp)
      rw [Json.natOfDigits_append_singleton, List.length_append, List.length_singleton, pow_succ]
      omega

namespace Json

/-- The names in an object differ, and an integer has no more digits than are read. -/
inductive IsTidy : Json → Prop
  | null : IsTidy .null
  | bool (flag : Bool) : IsTidy (.bool flag)
  | int {number : Int} (short : (Text.ofNat number.natAbs).length ≤ integerDigitLimit) :
      IsTidy (.int number)
  | float (number : Float) : IsTidy (.float number)
  | string (text : Text) : IsTidy (.string text)
  | array {items : List Json} (all : ∀ item ∈ items, IsTidy item) : IsTidy (.array items)
  | object {fields : Entries Json} (distinct : (fields.map Prod.fst).Nodup)
      (all : ∀ field ∈ fields, IsTidy field.2) : IsTidy (.object fields)

/-! ## What is read -/

section

variable {value : Json} {rest text : Text} {bound : Nat}

theorem length_ofNat_digitValues_le {whole : Text} (filled : whole ≠ []) :
    (Text.ofNat (natOfDigits (digitValues whole))).length ≤ whole.length := by
  have small : ∀ digit ∈ digitValues whole, digit < 10 := by
    intro digit listed
    rcases List.mem_filterMap.1 listed with ⟨point, _, reads⟩
    simp only [CodePoint.asciiDigit?] at reads
    split at reads
    · rename_i inside
      simp only [Bool.and_eq_true, decide_eq_true_eq] at inside
      cases reads
      omega
    · cases reads
  have short : (digitValues whole).length ≤ whole.length := List.length_filterMap_le _ _
  rw [length_ofNat, Nat.length_toDigits_le_iff (by decide) (List.length_pos_iff.2 filled)]
  exact (natOfDigits_lt small).trans_le (Nat.pow_le_pow_right (by decide) short)

theorem isTidy_of_readNumber {negative : Bool} {start : Text}
    (read : readNumber .values negative start text = .ok (value, rest)) : value.IsTidy := by
  simp only [readNumber] at read
  split at read
  · cases read
  · rename_i filled
    split at read
    · split at read
      · cases read
      · rename_i short
        cases read
        rw [List.isEmpty_iff] at filled
        have digits := length_ofNat_digitValues_le filled
        refine .int ?_
        split <;> simp only [Int.natAbs_neg, Int.natAbs_natCast] <;> omega
    · cases read
      exact .float _

theorem isTidy_of_readScalar (read : readScalar .values text = .ok (value, rest)) :
    value.IsTidy := by
  rw [readScalar.eq_def] at read
  split at read
  · rename_i result spelled
    rcases List.exists_of_findSome?_eq_some spelled with ⟨⟨word, own⟩, listed, found⟩
    rcases Option.map_eq_some_iff.1 found with ⟨after, _, rfl⟩
    cases read
    simp only [words, List.mem_cons, List.not_mem_nil, or_false, Prod.mk.injEq] at listed
    rcases listed with ⟨_, rfl⟩ | ⟨_, rfl⟩ | ⟨_, rfl⟩ | ⟨_, rfl⟩ | ⟨_, rfl⟩ | ⟨_, rfl⟩ <;>
      constructor
  · split at read
    · cases read
    · split at read
      · exact isTidy_of_readNumber read
      · exact isTidy_of_readNumber read

/-- What holds of every item that is read holds of all items of a list. -/
theorem forall_of_readItems {item : Text → Except Stop (Json × Text)} {holds : Json → Prop}
    (each : ∀ {text value rest}, item text = .ok (value, rest) → holds value)
    {values : List Json} (read : readItems item bound text = .ok (values, rest)) :
    ∀ value ∈ values, holds value := by
  induction bound generalizing text values with
  | zero => cases read
  | succ bound ih =>
      rw [readItems] at read
      split at read
      · cases read
      · rename_i first after own
        split at read
        · cases read
        · split at read
          · cases read
            simpa using each own
          · split at read
            · split at read
              · rename_i others behind more
                cases read
                exact List.forall_mem_cons.2 ⟨each own, ih more⟩
              · cases read
            · cases read

/-- What holds of every value that is read holds of all values of an object. -/
theorem forall_of_readFields {item : Text → Except Stop (Json × Text)} {holds : Json → Prop}
    (each : ∀ {text value rest}, item text = .ok (value, rest) → holds value)
    {fields : Entries Json} (read : readFields item bound text = .ok (fields, rest)) :
    ∀ field ∈ fields, holds field.2 := by
  induction bound generalizing text fields with
  | zero => cases read
  | succ bound ih =>
      cases text with
      | nil => cases read
      | cons quote behind =>
          rw [readFields] at read
          split at read
          · cases read
          split at read
          · cases read
          split at read
          · cases read
          split at read
          · cases read
          split at read
          · cases read
          rename_i first after own
          split at read
          · cases read
          split at read
          · cases read
            simpa using each own
          split at read
          · split at read
            · rename_i others last more
              cases read
              exact List.forall_mem_cons.2 ⟨each own, ih more⟩
            · cases read
          · cases read

theorem isTidy_of_map_readString
    (read : (readString text).map (fun (own, after) => (Json.string own, after)) =
      .ok (value, rest)) : value.IsTidy := by
  cases spelled : readString text with
  | error stop =>
      rw [spelled] at read
      cases read
  | ok pair =>
      rw [spelled] at read
      cases read
      exact .string _

/-- What is read is tidy. -/
theorem isTidy_of_readValue {depth : Nat}
    (read : readValue .values bound depth text = .ok (value, rest)) : value.IsTidy := by
  induction depth generalizing text value rest with
  | zero =>
      cases text with
      | nil => cases read
      | cons point behind =>
          rw [readValue] at read
          split at read
          · exact isTidy_of_map_readString read
          split at read
          · cases read
          split at read
          · cases read
          · exact isTidy_of_readScalar read
  | succ depth ih =>
      cases text with
      | nil => cases read
      | cons point behind =>
          rw [readValue] at read
          split at read
          · exact isTidy_of_map_readString read
          split at read
          · split at read
            · cases read
            split at read
            · cases read
              exact .array (by simp)
            · cases items : readItems (readValue .values bound depth) bound _ with
              | error stop =>
                  rw [items] at read
                  cases read
              | ok pair =>
                  rw [items] at read
                  cases read
                  exact .array (forall_of_readItems ih items)
          split at read
          · split at read
            · cases read
            split at read
            · cases read
              exact .object (by simp) (by simp)
            · cases fields : readFields (readValue .values bound depth) bound _ with
              | error stop =>
                  rw [fields] at read
                  cases read
              | ok pair =>
                  rw [fields] at read
                  cases read
                  exact .object (Entries.nodup_putAll (by simp) _)
                    (Entries.forall_putAll (by simp) (forall_of_readFields ih fields))
          · exact isTidy_of_readScalar read

theorem isTidy_of_readWhole {limit : Nat} (isRead : readWhole .values text limit = .ok value) :
    value.IsTidy := by
  rw [readWhole] at isRead
  split at isRead
  · cases isRead
  · rename_i own after found
    split at isRead
    · cases isRead
      exact isTidy_of_readValue found
    · cases isRead

end

/-! ## What a record shows -/

mutual
/-- The value with null in place of every infinity and NaN. -/
def finitePart : Json → Json
  | float number => if number.isFinite then float number else null
  | array items => array (finiteItems items)
  | object fields => object (finiteFields fields)
  | value => value

/-- The items with null in place of every infinity and NaN. -/
def finiteItems : List Json → List Json
  | [] => []
  | item :: rest => finitePart item :: finiteItems rest

/-- The fields with null in place of every infinity and NaN. -/
def finiteFields : Entries Json → Entries Json
  | [] => []
  | (name, value) :: rest => (name, finitePart value) :: finiteFields rest
end

theorem finiteItems_eq (items : List Json) : finiteItems items = items.map finitePart := by
  induction items with
  | nil => rfl
  | cons first others ih => rw [finiteItems, ih, List.map_cons]

theorem finiteFields_eq (fields : Entries Json) :
    finiteFields fields = fields.map fun field => (field.1, field.2.finitePart) := by
  induction fields with
  | nil => rfl
  | cons first others ih => rw [finiteFields, ih, List.map_cons]

mutual
theorem finitePart_of_allFinite {value : Json} (finite : value.allFinite = true) :
    value.finitePart = value := by
  cases value with
  | float number =>
      rw [allFinite] at finite
      rw [finitePart, if_pos finite]
  | array items => rw [finitePart, finiteItems_of_allFinite finite]
  | object fields => rw [finitePart, finiteFields_of_allFinite finite]
  | _ => rfl

theorem finiteItems_of_allFinite {items : List Json} (finite : allFiniteItems items = true) :
    finiteItems items = items := by
  cases items with
  | nil => rfl
  | cons first others =>
      rw [allFiniteItems, Bool.and_eq_true] at finite
      rw [finiteItems, finitePart_of_allFinite finite.1, finiteItems_of_allFinite finite.2]

theorem finiteFields_of_allFinite {fields : Entries Json}
    (finite : allFiniteFields fields = true) : finiteFields fields = fields := by
  cases fields with
  | nil => rfl
  | cons first others =>
      rcases first with ⟨name, value⟩
      rw [allFiniteFields, Bool.and_eq_true] at finite
      rw [finiteFields, finitePart_of_allFinite finite.1, finiteFields_of_allFinite finite.2]
end

section

variable {value : Json}

/-- A record shows null for what is not finite. -/
theorem IsTidy.write_finitePart (tidy : value.IsTidy) :
    value.finitePart.write .brief = value.write .brief := by
  induction tidy with
  | float number =>
      rw [finitePart]
      split
      · rfl
      · rename_i infinite
        have nothing := FloatParts.brief?_eq_none (Bool.eq_false_iff.2 infinite)
        simp only [write, Style.brief, writeBriefFloat, nothing, Option.getD_none]
  | @array items _ ih =>
      have same : (items.map finitePart).map (write .brief) = items.map (write .brief) := by
        rw [List.map_map]
        exact List.map_congr_left ih
      rw [finitePart, write, write, writeItems_eq, writeItems_eq, finiteItems_eq, same]
  | @object fields _ _ ih =>
      have same : (fields.map fun field => (field.1, field.2.finitePart)).map (writeField .brief) =
          fields.map (writeField .brief) := by
        rw [List.map_map]
        refine List.map_congr_left fun field listed => ?_
        simp only [Function.comp_apply, writeField, ih field listed]
      rw [finitePart, write, write, writeFields_eq, writeFields_eq, finiteFields_eq, same]
  | _ => rfl

theorem textFlaw?_eq_none_iff {text : Text} : textFlaw? text = none ↔ text.IsScalar := by
  have lone_iff (point : CodePoint) : point.toChar?.isNone = false ↔
      ∃ char, point = .scalar char := by
    cases point <;> simp [CodePoint.toChar?]
  rw [textFlaw?, ite_eq_right_iff, Text.IsScalar]
  simp only [reduceCtorEq, imp_false, Bool.not_eq_true, List.any_eq_false]
  simp only [lone_iff]

theorem flawOfItems?_eq_none_iff {depth : Nat} {items : List Json} :
    flawOfItems? depth items = none ↔ ∀ item ∈ items, flawAt? depth item = none := by
  induction items with
  | nil => simp [flawOfItems?]
  | cons first others ih => simp [flawOfItems?, ih]

theorem flawOfFields?_eq_none_iff {depth : Nat} {fields : Entries Json} :
    flawOfFields? depth fields = none ↔
      ∀ field ∈ fields, textFlaw? field.1 = none ∧ flawAt? depth field.2 = none := by
  induction fields with
  | nil => simp [flawOfFields?]
  | cons first others ih => simp [flawOfFields?, ih, and_assoc]

/-- What a record has room for is plain without what is not finite. -/
theorem IsTidy.isPlain_finitePart (tidy : value.IsTidy) {depth : Nat}
    (fits : flawAt? depth value = none) : IsPlain (depthLimit - depth) value.finitePart := by
  induction tidy generalizing depth with
  | null => exact .null
  | bool flag => exact .bool flag
  | int short => exact .int short
  | float number =>
      rw [finitePart]
      split
      · rename_i finite
        exact .float finite
      · exact .null
  | string text =>
      rw [flawAt?] at fits
      split at fits
      · cases fits
      · exact .string (textFlaw?_eq_none_iff.1 fits)
  | array _ ih =>
      rw [flawAt?] at fits
      split at fits
      · cases fits
      · rename_i room
        have levels : depthLimit - depth = depthLimit - (depth + 1) + 1 := by omega
        rw [flawOfItems?_eq_none_iff] at fits
        rw [finitePart, finiteItems_eq, levels]
        refine .array ?_
        rw [List.forall_mem_map]
        exact fun item listed => ih item listed (fits item listed)
  | @object fields distinct _ ih =>
      rw [flawAt?] at fits
      split at fits
      · cases fits
      · rename_i room
        have levels : depthLimit - depth = depthLimit - (depth + 1) + 1 := by omega
        have names : ((fields.map fun field => (field.1, field.2.finitePart)).map Prod.fst) =
            fields.map Prod.fst := by
          rw [List.map_map]
          rfl
        rw [flawOfFields?_eq_none_iff] at fits
        rw [finitePart, finiteFields_eq, levels]
        refine .object (by rw [names]; exact distinct) ?_ ?_ <;> rw [List.forall_mem_map]
        · exact fun field listed => textFlaw?_eq_none_iff.1 (fits field listed).1
        · exact fun field listed => ih field listed (fits field listed).2

end

end Json

end FleetGate
