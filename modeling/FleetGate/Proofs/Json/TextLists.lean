import FleetGate.Proofs.Json.RoundTrip

/-!
# Lists of texts

A list of visible texts that is written in the spaced style is read back as it was. Conversely, if
a written list is read as a list of visible texts then it is this list: only strings begin with a
quote, and a string that comes out visible is the one that was written.
-/

namespace FleetGate

/-! ## The first character of a value -/

/-- A character that starts no value but perhaps a string. -/
structure IsForeign (char : Char) : Prop where
  noDigit : char.isDigit = false
  noMark : char ∉ ['0', '-', '+', '.', 'e', 'N', 'a', 'I', 'n', 'f', 'i', 't', 'y', '[', '\x7b']

section

variable {char : Char}

/-- A foreign character differs from the marks in the texts of numbers. -/
theorem IsForeign.ne_marks (foreign : IsForeign char) :
    char ≠ '0' ∧ char ≠ '-' ∧ char ≠ '+' ∧ char ≠ '.' ∧ char ≠ 'e' ∧ char ≠ 'N' ∧ char ≠ 'a' ∧
      char ≠ 'I' ∧ char ≠ 'n' ∧ char ≠ 'f' ∧ char ≠ 'i' ∧ char ≠ 't' ∧ char ≠ 'y' := by
  have noMark := foreign.noMark
  simp only [List.mem_cons, List.not_mem_nil, or_false, not_or] at noMark
  simp only [ne_eq, noMark, not_false_eq_true, and_self]

theorem IsForeign.notMem_toDigits (foreign : IsForeign char) (number : Nat) :
    char ∉ Nat.toDigits 10 number := by
  intro listed
  have digit := Nat.isDigit_of_mem_toDigits (by omega) (by omega) listed
  rw [foreign.noDigit] at digit
  cases digit

theorem IsForeign.notMem_exponentPart (foreign : IsForeign char) (exponent : Int) :
    char ∉ Decimal.exponentPart exponent := by
  have digits := foreign.notMem_toDigits exponent.natAbs
  have marks := foreign.ne_marks
  unfold Decimal.exponentPart
  split <;> simp [digits, marks]

theorem IsForeign.notMem_mantissa (foreign : IsForeign char) (decimal : Decimal) :
    char ∉ decimal.mantissa := by
  have digits := foreign.notMem_toDigits decimal.digits
  have marks := foreign.ne_marks
  unfold Decimal.mantissa
  split
  · simp
  · rename_i digit only
    simpa [only] using digits
  · rename_i digit rest several
    simpa [several, marks] using digits

theorem IsForeign.notMem_positional (foreign : IsForeign char) (decimal : Decimal) :
    char ∉ decimal.positional := by
  have digits := foreign.notMem_toDigits decimal.digits
  have marks := foreign.ne_marks
  have front {count : Nat} : char ∉ (Nat.toDigits 10 decimal.digits).take count :=
    fun listed => digits (List.mem_of_mem_take listed)
  have back {count : Nat} : char ∉ (Nat.toDigits 10 decimal.digits).drop count :=
    fun listed => digits (List.mem_of_mem_drop listed)
  simp only [Decimal.positional]
  split
  · simp [digits, marks]
  · split
    · simp [digits, marks]
    · simp [front, back, marks]

theorem IsForeign.notMem_plain (foreign : IsForeign char) (decimal : Decimal) :
    char ∉ decimal.plain := by
  unfold Decimal.plain
  split
  · exact foreign.notMem_positional decimal
  · simp [Decimal.scientific, foreign.notMem_mantissa, foreign.notMem_exponentPart]

theorem IsForeign.notMem_signed (foreign : IsForeign char) (negative : Bool) {text : List Char}
    (missing : char ∉ text) :
    CodePoint.scalar char ∉ Text.ofString (FloatParts.signed negative text) := by
  have marks := foreign.ne_marks
  cases negative <;> simp [FloatParts.signed, Text.ofString, marks, missing]

end

theorem Decimal.plain_ne_nil (decimal : Decimal) : decimal.plain ≠ [] := by
  unfold plain
  split
  · simp only [positional]
    split
    · simp
    · split <;> simp
  · simp [scientific, exponentPart]

namespace Json

theorem signed_ne_nil (negative : Bool) {text : List Char} (filled : text ≠ []) :
    Text.ofString (FloatParts.signed negative text) ≠ [] := by
  cases negative <;> simp [FloatParts.signed, Text.ofString, filled]

theorem notMem_ofInt {char : Char} (foreign : IsForeign char) (number : Int) :
    CodePoint.scalar char ∉ Text.ofInt number := by
  have digits := foreign.notMem_toDigits number.natAbs
  have marks := foreign.ne_marks
  unfold Text.ofInt Text.ofNat
  split <;> simp [Text.ofChar, digits, marks]

theorem notMem_writeFloat {char : Char} (foreign : IsForeign char) (number : Float) :
    CodePoint.scalar char ∉ writeFloat number := by
  have marks := foreign.ne_marks
  unfold writeFloat
  cases FloatParts.ofFloat number with
  | nan => simp [Text.ofString, marks]
  | infinite negative => cases negative <;> simp [Text.ofString, marks]
  | zero negative => exact foreign.notMem_signed negative (by simp [marks])
  | finite negative magnitude => exact foreign.notMem_signed negative (foreign.notMem_plain _)

theorem write_ne_nil (item : Json) : item.write .spaced ≠ [] := by
  cases item with
  | null => simp [write, Text.ofString]
  | bool flag => cases flag <;> simp [write, Text.ofString]
  | string text => simp [write, writeString, Text.ofChar]
  | array items => simp [write, Text.ofChar]
  | object fields => simp [write, Text.ofChar]
  | int number =>
      rw [write, Text.ofInt]
      split <;> simp [Text.ofChar, Text.ofNat]
  | float number =>
      rw [write]
      change writeFloat number ≠ []
      unfold writeFloat
      cases FloatParts.ofFloat number with
      | nan => simp [Text.ofString]
      | infinite negative => cases negative <;> simp [Text.ofString]
      | zero negative => exact signed_ne_nil negative (by simp)
      | finite negative magnitude => exact signed_ne_nil negative (Decimal.plain_ne_nil _)

/-- Of the foreign characters only the quote starts a value, and then the value is a string. -/
theorem exists_string_of_write {item : Json} {char : Char} {rest behind : Text}
    (foreign : IsForeign char) (starts : item.write .spaced ++ rest = .scalar char :: behind) :
    char = '"' ∧ ∃ text, item = .string text := by
  have first : CodePoint.scalar char ∈ item.write .spaced := by
    cases written : item.write .spaced with
    | nil => exact absurd written item.write_ne_nil
    | cons point others =>
        rw [written, List.cons_append, List.cons.injEq] at starts
        rw [starts.1]
        exact List.mem_cons_self
  cases item with
  | string text =>
      rw [write] at starts
      cases starts
      exact ⟨rfl, text, rfl⟩
  | int number => exact absurd first (notMem_ofInt foreign number)
  | float number => exact absurd first (notMem_writeFloat foreign number)
  | null =>
      cases starts
      exact absurd (by decide) foreign.noMark
  | bool flag =>
      cases flag
      · cases starts
        exact absurd (by decide) foreign.noMark
      · cases starts
        exact absurd (by decide) foreign.noMark
  | array items =>
      rw [write] at starts
      cases starts
      exact absurd (by decide) foreign.noMark
  | object fields =>
      rw [write] at starts
      cases starts
      exact absurd (by decide) foreign.noMark

theorem exists_foreign_of_isSpace {point : CodePoint} (space : isSpace point = true) :
    ∃ char, point = .scalar char ∧ IsForeign char ∧ char ≠ '"' := by
  simp only [isSpace, Bool.or_eq_true, CodePoint.is_eq_true_iff] at space
  rcases space with ((rfl | rfl) | rfl) | rfl
  all_goals exact ⟨_, rfl, ⟨by decide, by decide⟩, by decide⟩

/-- No value starts with a blank. -/
theorem skipSpace_write (item : Json) (rest : Text) :
    skipSpace (item.write .spaced ++ rest) = item.write .spaced ++ rest := by
  cases starts : item.write .spaced ++ rest with
  | nil => rfl
  | cons point behind =>
      have noBlank : isSpace point = false := by
        rw [Bool.eq_false_iff]
        intro space
        rcases exists_foreign_of_isSpace space with ⟨char, rfl, foreign, noQuote⟩
        exact noQuote (exists_string_of_write foreign starts).1
      simp [skipSpace, noBlank]

/-! ## What is read as a string -/

/-- The reader found a string. -/
inductive IsString : Except Stop (Json × Text) → Prop where
  | intro (text rest : Text) : IsString (.ok (.string text, rest))

theorem readNumber_not_isString (negative : Bool) (start text : Text) :
    ¬IsString (readNumber .values negative start text) := by
  intro isString
  simp only [readNumber] at isString
  split at isString
  · cases isString
  · split at isString
    · split at isString <;> cases isString
    · cases isString

/-- No word stands for a string, and neither does a number. -/
theorem readScalar_not_isString (text : Text) : ¬IsString (readScalar .values text) := by
  intro isString
  rw [readScalar.eq_def] at isString
  split at isString
  · rename_i result spelled
    rcases List.exists_of_findSome?_eq_some spelled with ⟨⟨word, value⟩, word_mem, read⟩
    rcases Option.map_eq_some_iff.1 read with ⟨after, _, rfl⟩
    cases isString
    simp [words] at word_mem
  · split at isString
    · cases isString
    · split at isString
      · exact readNumber_not_isString true _ _ isString
      · exact readNumber_not_isString false _ _ isString

/-- A container is not read as a string. -/
theorem map_not_isString {α : Type} {result : Except Stop α} {wrap : α → Json × Text}
    (other : ∀ value text, (wrap value).1 ≠ .string text) : ¬IsString (result.map wrap) := by
  intro isString
  cases result with
  | error stop => cases isString
  | ok value =>
      rcases wrapped : wrap value with ⟨read, rest⟩
      have string : IsString (.ok (read, rest)) := wrapped ▸ isString
      cases string
      exact other value _ (by rw [wrapped])

/-- Only what begins with a quote is read as a string. -/
theorem exists_quote_of_isString {bound depth : Nat} {source : Text}
    (isString : IsString (readValue .values bound depth source)) :
    ∃ behind, source = .scalar '"' :: behind := by
  cases source with
  | nil => cases depth <;> cases isString
  | cons point rest =>
      cases quote : point.is '"' with
      | true =>
          rw [(CodePoint.is_eq_true_iff point '"').1 quote]
          exact ⟨rest, rfl⟩
      | false =>
          cases depth with
          | zero =>
              simp only [readValue, quote, Bool.false_eq_true, if_false] at isString
              split at isString
              · cases isString
              · split at isString
                · cases isString
                · exact absurd isString (readScalar_not_isString _)
          | succ depth =>
              simp only [readValue, quote, Bool.false_eq_true, if_false] at isString
              split at isString
              · split at isString
                · cases isString
                · split at isString
                  · cases isString
                  · exact (map_not_isString (fun _ _ same => by cases same) isString).elim
              · split at isString
                · split at isString
                  · cases isString
                  · split at isString
                    · cases isString
                    · exact (map_not_isString (fun _ _ same => by cases same) isString).elim
                · exact absurd isString (readScalar_not_isString _)

/-- The value is a text of printable ASCII characters. -/
def IsVisibleText : Json → Prop
  | .string text => ∀ point ∈ text, point.IsVisible
  | _ => False

/-- A written value that is read as a visible text is this text. -/
theorem eq_of_readValue {item value : Json} {bound depth : Nat} {rest after : Text}
    (read : readValue .values bound depth (item.write .spaced ++ rest) = .ok (value, after))
    (visible : IsVisibleText value) : value = item ∧ after = rest := by
  cases value with
  | string text =>
      have isString : IsString (readValue .values bound depth (item.write .spaced ++ rest)) :=
        read ▸ .intro text after
      rcases exists_quote_of_isString isString with ⟨behind, quote⟩
      have foreign : IsForeign '"' := ⟨by decide, by decide⟩
      rcases (exists_string_of_write foreign quote).2 with ⟨own, rfl⟩
      rw [write, Style.spaced, readValue_writeString, Except.ok.injEq, Prod.mk.injEq,
        Json.string.injEq] at read
      rcases read with ⟨rfl, rfl⟩
      exact ⟨by rw [eq_of_reread_visible visible], rfl⟩
  | _ => cases visible

/-! ## Lists of texts -/

/-- What stands behind an item of a list: the closing bracket, or a comma and the other items. -/
def itemsAfter (others : List Json) (rest : Text) : Text :=
  match others with
  | [] => .scalar ']' :: rest
  | next :: more =>
    .scalar ',' :: .scalar ' ' :: (writeItems .spaced (next :: more) ++ .scalar ']' :: rest)

theorem writeItems_cons (first : Json) (others : List Json) (rest : Text) :
    writeItems .spaced (first :: others) ++ .scalar ']' :: rest =
      first.write .spaced ++ itemsAfter others rest := by
  cases others with
  | nil => simp [writeItems, itemsAfter]
  | cons next more => simp [writeItems, itemsAfter, Style.spaced, Text.ofString]

/-- The blank after a comma is skipped, and nothing more. -/
theorem skipSpace_items (next : Json) (more : List Json) (rest : Text) :
    skipSpace (.scalar ' ' :: (writeItems .spaced (next :: more) ++ .scalar ']' :: rest)) =
      writeItems .spaced (next :: more) ++ .scalar ']' :: rest := by
  rw [writeItems_cons]
  exact skipSpace_write next (itemsAfter more rest)

/-- Items that are read begin with one, and a bracket or a comma follows it. -/
theorem exists_of_readItems {item : Text → Except Stop (Json × Text)} {bound : Nat}
    {text after : Text} {values : List Json}
    (read : readItems item bound text = .ok (values, after)) :
    ∃ value rest, item text = .ok (value, rest) ∧
      (skipSpace rest = .scalar ']' :: after ∧ values = [value] ∨
        ∃ later behind fewer, skipSpace rest = .scalar ',' :: behind ∧
          readItems item fewer (skipSpace behind) = .ok (later, after) ∧
          values = value :: later) := by
  cases bound with
  | zero => cases read
  | succ bound =>
      rw [readItems] at read
      cases own : item text with
      | error stop =>
          rw [own] at read
          cases read
      | ok pair =>
          rcases pair with ⟨value, rest⟩
          refine ⟨value, rest, rfl, ?_⟩
          simp only [own] at read
          cases skipped : skipSpace rest with
          | nil =>
              rw [skipped] at read
              cases read
          | cons point behind =>
              simp only [skipped] at read
              by_cases closes : point.is ']' = true
              · rw [if_pos closes, Except.ok.injEq, Prod.mk.injEq] at read
                rcases read with ⟨rfl, rfl⟩
                rw [(CodePoint.is_eq_true_iff point ']').1 closes]
                exact .inl ⟨rfl, rfl⟩
              · rw [if_neg closes] at read
                by_cases comma : point.is ',' = true
                · rw [if_pos comma] at read
                  rw [(CodePoint.is_eq_true_iff point ',').1 comma]
                  cases more : readItems item bound (skipSpace behind) with
                  | error stop =>
                      rw [more] at read
                      cases read
                  | ok found =>
                      rw [more] at read
                      cases read
                      exact .inr ⟨_, behind, bound, rfl, more, rfl⟩
                · rw [if_neg comma] at read
                  cases read

/-- Written items that are read as visible texts are these texts. -/
theorem eq_of_readItems {first : Json} {others values : List Json} {bound inner depth : Nat}
    {rest after : Text}
    (read : readItems (readValue .values inner depth) bound
      (writeItems .spaced (first :: others) ++ .scalar ']' :: rest) = .ok (values, after))
    (visible : ∀ value ∈ values, IsVisibleText value) : values = first :: others := by
  -- The induction is on what was written. A visible value is read up to the written mark behind
  -- it, so the reader finds a bracket or a comma exactly where the writer put one.
  induction others generalizing first values bound with
  | nil =>
      rw [writeItems_cons] at read
      rcases exists_of_readItems read with ⟨value, behind, own, ends⟩
      rcases ends with ⟨_, rfl⟩ | ⟨later, tail, fewer, comma, _, rfl⟩
      · rw [(eq_of_readValue own (visible value (by simp))).1]
      · rw [(eq_of_readValue own (visible value (by simp))).2] at comma
        cases comma
  | cons next more ih =>
      rw [writeItems_cons] at read
      rcases exists_of_readItems read with ⟨value, behind, own, ends⟩
      rcases ends with ⟨bracket, rfl⟩ | ⟨later, tail, fewer, comma, found, rfl⟩
      · rw [(eq_of_readValue own (visible value (by simp))).2] at bracket
        cases bracket
      · rcases eq_of_readValue own (visible value (by simp)) with ⟨rfl, rfl⟩
        cases comma
        rw [skipSpace_items] at found
        rw [ih found fun other listed => visible other (List.mem_cons_of_mem _ listed)]

/-! ## Written arrays -/

/-- What stands behind the opening bracket of a written array is read as items. -/
theorem readValue_items (bound depth : Nat) (first : Json) (others : List Json) (rest : Text) :
    readValue .values bound (depth + 1)
        (.scalar '[' :: (writeItems .spaced (first :: others) ++ .scalar ']' :: rest)) =
      (readItems (readValue .values bound depth) bound
        (writeItems .spaced (first :: others) ++ .scalar ']' :: rest)).map
          fun (items, rest) => (.array items, rest) := by
  have skipped := skipSpace_write first (itemsAfter others rest)
  rw [writeItems_cons]
  cases starts : first.write .spaced ++ itemsAfter others rest with
  | nil => exact absurd (List.append_eq_nil_iff.1 starts).1 first.write_ne_nil
  | cons point behind =>
      rw [starts] at skipped
      have noBracket : point.is ']' = false := by
        rw [Bool.eq_false_iff, ne_eq, CodePoint.is_eq_true_iff]
        rintro rfl
        have foreign : IsForeign ']' := ⟨by decide, by decide⟩
        exact absurd (exists_string_of_write foreign starts).1 (by decide)
      rw [readValue]
      simp only [skipped, noBracket, Bool.false_eq_true, if_false]
      rfl

theorem read_items (first : Json) (others : List Json) (room : Nat) :
    ∃ bound, read .values ((array (first :: others)).write .spaced) (room + 1) =
      match readItems (readValue .values bound room) bound
        (writeItems .spaced (first :: others) ++ [.scalar ']']) with
      | .error stop => .error stop
      | .ok (items, rest) =>
        match skipSpace rest with
        | [] => .ok (array items)
        | point :: rest => .error (.flaw .extraData (point :: rest).length) := by
  have shape : (array (first :: others)).write .spaced =
      .scalar '[' :: (writeItems .spaced (first :: others) ++ [.scalar ']']) := by
    simp [write, Text.ofChar]
  refine ⟨((array (first :: others)).write .spaced).length, ?_⟩
  have skipped : skipSpace (.scalar '[' ::
      (writeItems .spaced (first :: others) ++ [.scalar ']'])) =
        .scalar '[' :: (writeItems .spaced (first :: others) ++ [.scalar ']']) := rfl
  rw [shape, read, if_neg (by decide), readWhole, skipped, readValue_items]
  cases readItems _ _ _ with
  | error stop => rfl
  | ok found => rfl

theorem isPlain_of_visible {item : Json} (visible : IsVisibleText item) : IsPlain 0 item := by
  cases item with
  | string text =>
      refine .string fun point listed => ?_
      cases point with
      | scalar char => exact ⟨char, rfl⟩
      | surrogate half =>
          have small := (visible _ listed).2
          simp only [CodePoint.value] at small
          omega
  | _ => cases visible

/-- A list of visible texts is read back as it was written. -/
theorem read_visible {items : List Json} (visible : ∀ item ∈ items, IsVisibleText item)
    (limit : Nat := nestingLimit) (room : 0 < limit := by decide) :
    read .values ((array items).write .spaced) limit = .ok (array items) := by
  have plain : IsPlain 1 (array items) :=
    .array fun item listed => isPlain_of_visible (visible item listed)
  exact read_write Style.isReadable_spaced (plain.mono room)

/-- A written array is read as an array, and if the texts in it are visible then they were
written. -/
theorem exists_array_of_read {items : List Json} {value : Json} {limit : Nat}
    (isRead : read .values ((array items).write .spaced) limit = .ok value) :
    ∃ values, value = array values ∧
      ((∀ item ∈ values, IsVisibleText item) → values = items) := by
  cases items with
  | nil =>
      cases limit <;> cases isRead
      exact ⟨[], rfl, fun _ => rfl⟩
  | cons first others =>
      -- Without room for the list itself nothing is read.
      cases limit with
      | zero => cases isRead
      | succ room =>
          rcases read_items first others room with ⟨bound, same⟩
          rw [same] at isRead
          cases found : readItems (readValue .values bound room) bound
              (writeItems .spaced (first :: others) ++ [.scalar ']']) with
          | error stop =>
              rw [found] at isRead
              cases isRead
          | ok pair =>
              rcases pair with ⟨values, rest⟩
              simp only [found] at isRead
              cases ends : skipSpace rest with
              | nil =>
                  simp only [ends, Except.ok.injEq] at isRead
                  exact ⟨values, isRead.symm, fun visible => eq_of_readItems found visible⟩
              | cons point behind =>
                  simp only [ends] at isRead
                  cases isRead

end Json

end FleetGate
