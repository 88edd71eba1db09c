import FleetGate.Json.Reader
import FleetGate.Json.Writer
import FleetGate.Proofs.Number.Padded

/-!
# Strings in ASCII

A string that is written in ASCII only is read back piece by piece. Escaped numbers that happen to
be a high and a low half next to each other are joined, so not every text comes back. What comes
back as a text of printable ASCII characters is the text that was written.
-/

namespace FleetGate

namespace CodePoint

/-- A printable ASCII character. -/
def IsVisible (point : CodePoint) : Prop :=
  32 ≤ point.value ∧ point.value ≤ 126

theorem eq_scalar_of_value {point : CodePoint} {char : Char}
    (same : point.value = char.toNat) : point = .scalar char := by
  cases point with
  | scalar own =>
      have own : own = char := Char.toNat_inj.1 same
      rw [own]
  | surrogate half =>
      have valid : char.toNat.isValidChar := char.valid
      have inside := half.isLt
      simp only [value, Nat.isValidChar] at same valid
      omega

theorem exists_ofNat? {number : Nat} (inside : number < 0x110000) :
    ∃ point, ofNat? number = some point ∧ point.value = number := by
  by_cases valid : number.isValidChar
  · rw [ofNat?, dif_pos valid]
    exact ⟨_, rfl, rfl⟩
  · have half : 0xD800 ≤ number ∧ number < 0xE000 := by
      simp only [Nat.isValidChar, not_or, not_and, Nat.not_lt] at valid
      omega
    rw [ofNat?, dif_neg valid, dif_pos half]
    exact ⟨_, rfl, by simp only [value]; omega⟩

theorem value_lt (point : CodePoint) : point.value < 0x110000 := by
  cases point with
  | scalar char =>
      have valid := char.valid
      simp only [UInt32.isValidChar, Nat.isValidChar] at valid
      change char.val.toNat < 0x110000
      omega
  | surrogate half =>
      simp only [value]
      omega

end CodePoint

namespace Json

/-! ## Pieces -/

/-- What the escape of a number is read as. -/
def numberPieces (number : Nat) : List Piece :=
  if number < 0x10000 then [.escaped number]
  else
    [.escaped (0xD800 + (number - 0x10000) / 0x400),
      .escaped (0xDC00 + (number - 0x10000) % 0x400)]

/-- The characters with an escape of one letter. -/
def shortEscapes : Text :=
  [.scalar '"', .scalar '\\', .scalar '\n', .scalar '\r', .scalar '\t', .scalar '\x08',
    .scalar '\x0c']

/-- What a written code point is read as. -/
def pointPieces (point : CodePoint) : List Piece :=
  if point ∈ shortEscapes ∨ 32 ≤ point.value ∧ point.value ≤ 126 then [.plain point]
  else numberPieces point.value

section

variable {opening : Nat} {rest after : Text} {pieces : List Piece}

theorem readPieces_simple {mark result : CodePoint}
    (later : readPieces opening rest = .ok (pieces, after)) (noUnit : mark.is 'u' = false)
    (simple : simpleEscape? mark = some result) :
    readPieces opening (.scalar '\\' :: mark :: rest) = .ok (.plain result :: pieces, after) := by
  rw [readPieces.eq_def]
  simp [noUnit, simple, later]

theorem readPieces_unit {number : Nat} (later : readPieces opening rest = .ok (pieces, after))
    (small : number < 0x10000) :
    readPieces opening (escapeUnit number ++ rest) = .ok (.escaped number :: pieces, after) := by
  have shape : escapeUnit number = [.scalar '\\', .scalar 'u',
      Digit.point 16 (number / 16 / 16 / 16), Digit.point 16 (number / 16 / 16),
      Digit.point 16 (number / 16), Digit.point 16 number] := by
    have four : Text.ofHex 4 number = [Digit.point 16 (number / 16 / 16 / 16),
        Digit.point 16 (number / 16 / 16), Digit.point 16 (number / 16),
        Digit.point 16 number] := Digit.padded_four (by omega) (by omega)
    rw [escapeUnit, four]
    rfl
  have hex : fourHex? (Digit.point 16 (number / 16 / 16 / 16)) (Digit.point 16 (number / 16 / 16))
      (Digit.point 16 (number / 16)) (Digit.point 16 number) = some number := by
    simp [fourHex?]
    omega
  have more : rest ≠ [] := by
    rintro rfl
    cases later
  rw [shape, readPieces.eq_def]
  simp [hex, more, later]

theorem readPieces_plain {point : CodePoint}
    (later : readPieces opening rest = .ok (pieces, after)) (noQuote : point.is '"' = false)
    (noBackslash : point.is '\\' = false) (visible : 32 ≤ point.value) :
    readPieces opening (point :: rest) = .ok (.plain point :: pieces, after) := by
  rw [readPieces.eq_def]
  simp only [noQuote, noBackslash, Bool.false_eq_true, if_false, later]
  rw [if_neg (by omega)]

/-- The escape of a number is read as the number or as its two halves. -/
theorem readPieces_number {number : Nat} (later : readPieces opening rest = .ok (pieces, after))
    (inside : number < 0x110000) :
    readPieces opening (escapeNumber number ++ rest) =
      .ok (numberPieces number ++ pieces, after) := by
  by_cases small : number < 0x10000
  · rw [escapeNumber, numberPieces, if_pos small, if_pos small]
    exact readPieces_unit later small
  · rw [escapeNumber, numberPieces, if_neg small, if_neg small, List.append_assoc]
    exact readPieces_unit (readPieces_unit later (by omega)) (by omega)

/-- Other characters are written as they are if they are visible, or else by their numbers. -/
theorem writePoint_eq {point : CodePoint} (long : point ∉ shortEscapes) :
    writePoint true point =
      if 32 ≤ point.value ∧ point.value ≤ 126 then [point] else escapeNumber point.value := by
  simp only [shortEscapes, List.mem_cons, List.not_mem_nil, or_false, not_or] at long
  rcases long with ⟨noQuote, noBackslash, noFeed, noReturn, noTab, noBack, noForm⟩
  have notBack : point.value ≠ 8 :=
    fun same => noBack (CodePoint.eq_scalar_of_value same)
  have notForm : point.value ≠ 12 :=
    fun same => noForm (CodePoint.eq_scalar_of_value same)
  simp only [writePoint, CodePoint.is_eq_true_iff, noQuote, noBackslash, noFeed, noReturn, noTab,
    notBack, notForm, if_false, Bool.true_and, decide_eq_true_eq]
  by_cases control : point.value < 32
  · rw [if_pos control, if_neg (by omega), escapeNumber, if_pos (by omega)]
  · by_cases high : 126 < point.value
    · rw [if_neg control, if_pos high, if_neg (by omega)]
    · rw [if_neg control, if_neg high, if_pos (by omega)]

/-- A written code point is read as its pieces. -/
theorem readPieces_writePoint (later : readPieces opening rest = .ok (pieces, after))
    (point : CodePoint) :
    readPieces opening (writePoint true point ++ rest) =
      .ok (pointPieces point ++ pieces, after) := by
  by_cases short : point ∈ shortEscapes
  · simp only [shortEscapes, List.mem_cons, List.not_mem_nil, or_false] at short
    rcases short with rfl | rfl | rfl | rfl | rfl | rfl | rfl
    all_goals exact readPieces_simple later rfl rfl
  · have noQuote : point.is '"' = false := by
      rw [Bool.eq_false_iff, ne_eq, CodePoint.is_eq_true_iff]
      rintro rfl
      simp [shortEscapes] at short
    have noBackslash : point.is '\\' = false := by
      rw [Bool.eq_false_iff, ne_eq, CodePoint.is_eq_true_iff]
      rintro rfl
      simp [shortEscapes] at short
    rw [writePoint_eq short, pointPieces]
    by_cases visible : 32 ≤ point.value ∧ point.value ≤ 126
    · rw [if_pos visible, if_pos (Or.inr visible)]
      exact readPieces_plain later noQuote noBackslash visible.1
    · rw [if_neg visible, if_neg (by simp [short, visible])]
      exact readPieces_number later point.value_lt

end

/-! ## Whole strings -/

/-- What a written text is read as. -/
def reread (text : Text) : Text :=
  joinPieces (text.flatMap pointPieces)

theorem readPieces_text (opening : Nat) (text rest : Text) :
    readPieces opening (text.flatMap (writePoint true) ++ .scalar '"' :: rest) =
      .ok (text.flatMap pointPieces, rest) := by
  induction text with
  | nil =>
      rw [List.flatMap_nil, List.flatMap_nil, List.nil_append, readPieces.eq_def]
      rfl
  | cons point others ih =>
      rw [List.flatMap_cons, List.flatMap_cons, List.append_assoc]
      exact readPieces_writePoint ih point

/-- A written text is read whatever stands behind it. -/
theorem readValue_writeString (mode : NumberMode) (bound depth : Nat) (text rest : Text) :
    readValue mode bound depth (writeString true text ++ rest) =
      .ok (.string (reread text), rest) := by
  have shape : writeString true text ++ rest =
      .scalar '"' :: (text.flatMap (writePoint true) ++ .scalar '"' :: rest) := by
    simp [writeString, Text.ofChar]
  have string : readString (text.flatMap (writePoint true) ++ .scalar '"' :: rest) =
      .ok (reread text, rest) := by
    rw [readString, readPieces_text]
    rfl
  rw [shape]
  cases depth with
  | zero => simp [readValue, string, Except.map]
  | succ depth => simp [readValue, string, Except.map]

theorem joinPieces_plain (text : Text) : joinPieces (text.map .plain) = text := by
  induction text with
  | nil => rfl
  | cons point rest ih => simp [joinPieces, ih]

/-- The piece is a character, or the escaped number of one that is not visible. -/
def IsFaithful : Piece → Prop
  | .plain _ => True
  | .escaped number => number < 0x10000 ∧ ¬(32 ≤ number ∧ number ≤ 126)

/-- An escaped number comes out as a character that is not visible, also joined with the next. -/
theorem exists_not_isVisible {number : Nat} (faithful : IsFaithful (.escaped number))
    (rest : List Piece) :
    ∃ point ∈ joinPieces (.escaped number :: rest), ¬point.IsVisible := by
  rcases faithful with ⟨small, hidden⟩
  rcases CodePoint.exists_ofNat? (by omega : number < 0x110000) with ⟨point, found, value⟩
  have notVisible : ¬point.IsVisible := by
    rw [CodePoint.IsVisible, value]
    exact hidden
  rcases rest with _ | ⟨next | low, rest⟩
  · exact ⟨point, by simp [joinPieces, found], notVisible⟩
  · exact ⟨point, by simp [joinPieces, found], notVisible⟩
  · -- Two halves join to a number of more than four digits, which is not visible either.
    by_cases halves : (CodePoint.isHighHalf number && CodePoint.isLowHalf low) = true
    · have bounds := halves
      simp only [CodePoint.isHighHalf, CodePoint.isLowHalf, Bool.and_eq_true,
        decide_eq_true_eq] at bounds
      have inside : CodePoint.joinHalves number low < 0x110000 := by
        unfold CodePoint.joinHalves
        omega
      rcases CodePoint.exists_ofNat? inside with ⟨joined, foundJoined, valueJoined⟩
      have joins : joinPieces (.escaped number :: .escaped low :: rest) =
          joined :: joinPieces rest := by
        rw [joinPieces, if_pos halves, foundJoined]
        rfl
      refine ⟨joined, by simp only [joins, List.mem_cons_self], ?_⟩
      unfold CodePoint.IsVisible
      rw [valueJoined]
      unfold CodePoint.joinHalves
      omega
    · have starts : joinPieces (.escaped number :: .escaped low :: rest) =
          point :: joinPieces (.escaped low :: rest) := by
        rw [joinPieces, if_neg halves, found]
        rfl
      exact ⟨point, by simp only [starts, List.mem_cons_self], notVisible⟩

/-- If what is read is visible, no number was escaped. -/
theorem exists_map_plain {pieces : List Piece} (faithful : ∀ piece ∈ pieces, IsFaithful piece)
    (visible : ∀ point ∈ joinPieces pieces, point.IsVisible) :
    ∃ text : Text, pieces = text.map .plain := by
  induction pieces with
  | nil => exact ⟨[], rfl⟩
  | cons piece rest ih =>
      cases piece with
      | plain point =>
          rcases ih (fun other listed => faithful other (by simp [listed]))
            (fun other listed => visible other (by simp [joinPieces, listed])) with ⟨text, same⟩
          exact ⟨point :: text, by rw [same]; rfl⟩
      | escaped number =>
          rcases exists_not_isVisible (faithful (.escaped number) (by simp)) rest with
            ⟨point, listed, hidden⟩
          exact absurd (visible point listed) hidden

theorem isFaithful_pointPieces (point : CodePoint) :
    ∀ piece ∈ pointPieces point, IsFaithful piece := by
  have inside := point.value_lt
  intro piece listed
  unfold pointPieces numberPieces at listed
  split at listed
  · rw [List.mem_singleton.1 listed]
    trivial
  · rename_i long
    rw [not_or] at long
    split at listed
    · rename_i small
      rw [List.mem_singleton.1 listed]
      exact ⟨small, long.2⟩
    · simp only [List.mem_cons, List.not_mem_nil, or_false] at listed
      rcases listed with rfl | rfl
      · exact ⟨by omega, by omega⟩
      · exact ⟨by omega, by omega⟩

/-- Pieces that are all characters are those of the text. -/
theorem eq_of_flatMap_pointPieces {text plain : Text}
    (same : text.flatMap pointPieces = plain.map .plain) : plain = text := by
  induction text generalizing plain with
  | nil =>
      rw [List.flatMap_nil, eq_comm, List.map_eq_nil_iff] at same
      exact same
  | cons point rest ih =>
      rw [List.flatMap_cons] at same
      unfold pointPieces numberPieces at same
      split at same
      · cases plain with
        | nil => cases same
        | cons first others =>
            rw [List.map_cons, List.singleton_append, List.cons.injEq, Piece.plain.injEq] at same
            rw [← same.1, ih same.2]
      · split at same
        · cases plain <;> cases same
        · cases plain <;> cases same

/-- What is read and visible is what was written. -/
theorem eq_of_reread_visible {text : Text} (visible : ∀ point ∈ reread text, point.IsVisible) :
    reread text = text := by
  have faithful : ∀ piece ∈ text.flatMap pointPieces, IsFaithful piece := by
    intro piece listed
    rcases List.mem_flatMap.1 listed with ⟨point, _, own⟩
    exact isFaithful_pointPieces point piece own
  rcases exists_map_plain faithful visible with ⟨plain, pieces⟩
  rw [reread, pieces, joinPieces_plain, eq_of_flatMap_pointPieces pieces]

end Json

end FleetGate
