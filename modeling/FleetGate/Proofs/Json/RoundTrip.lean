import FleetGate.Proofs.Json.Floats
import FleetGate.Proofs.Json.Strings
import FleetGate.Proofs.Text.Pieces
import FleetGate.Proofs.Text.Scalar

/-!
# Reading what was written

A value that is built from null, flags, integers, finite doubles and scalar texts by lists and
objects is read back from its text as it was, in every style that has nothing but blanks behind its
commas and colons and whose doubles are read back (`Json.read_write`). The induction is on how the
value is built and generalises over the text behind it; where a value stops the reader finds
nothing, a comma or a closing bracket.

A text that can be read begins with no blank and no closing bracket, so the reader never takes the
first item for the end of a list.
-/

namespace FleetGate

/-- The number of a character stands for it. -/
theorem CodePoint.ofNat?_value (char : Char) : ofNat? (scalar char).value = some (scalar char) := by
  have valid : char.toNat.isValidChar := char.valid
  have same : Char.ofNatAux char.toNat valid = char := Char.toNat_inj.1 rfl
  rw [value, ofNat?, dif_pos valid, same]

namespace Json

/-- A value that is built from null, flags, integers, finite doubles and scalar texts by lists and
objects, of which at most `depth` stand inside each other. The names in an object differ, and an
integer has no more digits than are read. -/
inductive IsPlain : (depth : Nat) → Json → Prop
  | null {depth : Nat} : IsPlain depth .null
  | bool {depth : Nat} (flag : Bool) : IsPlain depth (.bool flag)
  | int {depth : Nat} {number : Int}
      (short : (Text.ofNat number.natAbs).length ≤ integerDigitLimit) :
      IsPlain depth (.int number)
  | float {depth : Nat} {number : Float} (finite : number.isFinite = true) :
      IsPlain depth (.float number)
  | string {depth : Nat} {text : Text} (scalar : text.IsScalar) : IsPlain depth (.string text)
  | array {depth : Nat} {items : List Json} (all : ∀ item ∈ items, IsPlain depth item) :
      IsPlain (depth + 1) (.array items)
  | object {depth : Nat} {fields : Entries Json} (distinct : (fields.map Prod.fst).Nodup)
      (named : ∀ field ∈ fields, field.1.IsScalar) (all : ∀ field ∈ fields, IsPlain depth field.2) :
      IsPlain (depth + 1) (.object fields)

/-- What fits inside fewer values fits inside more. -/
theorem IsPlain.mono {depth more : Nat} {value : Json} (plain : IsPlain depth value)
    (fewer : depth ≤ more) : IsPlain more value := by
  induction plain generalizing more with
  | null => exact .null
  | bool flag => exact .bool flag
  | int short => exact .int short
  | float finite => exact .float finite
  | string scalar => exact .string scalar
  | array _ ih =>
      rcases Nat.exists_eq_add_of_lt fewer with ⟨extra, rfl⟩
      exact .array fun item listed => ih item listed (by omega)
  | object distinct named _ ih =>
      rcases Nat.exists_eq_add_of_lt fewer with ⟨extra, rfl⟩
      exact .object distinct named fun field listed => ih field listed (by omega)

/-- The marks of a style are read as a comma and a colon, and its doubles are read back. -/
structure Style.IsReadable (style : Style) : Prop where
  comma : ∃ blanks, Text.ofString style.comma = .scalar ',' :: blanks ∧
    ∀ point ∈ blanks, isSpace point = true
  colon : ∃ blanks, Text.ofString style.colon = .scalar ':' :: blanks ∧
    ∀ point ∈ blanks, isSpace point = true
  float : ∀ number : Float, number.isFinite = true → ∀ rest, Follows rest →
    readScalar .values (style.float number ++ rest) = .ok (.float number, rest)
  isScalar : ∀ number : Float, (style.float number).IsScalar

theorem isScalar_writeFloat (number : Float) : (writeFloat number).IsScalar := by
  unfold writeFloat
  split
  · exact Text.isScalar_ofString _
  · split <;> exact Text.isScalar_ofString _
  · exact Text.isScalar_ofString _

theorem Style.isReadable_compact : Style.compact.IsReadable where
  comma := ⟨[], rfl, by simp⟩
  colon := ⟨[], rfl, by simp⟩
  float _ finite _ := readScalar_writeFloat finite
  isScalar := isScalar_writeFloat

theorem Style.isReadable_brief : Style.brief.IsReadable where
  comma := ⟨[], rfl, by simp⟩
  colon := ⟨[], rfl, by simp⟩
  float _ finite _ := readScalar_writeBriefFloat finite
  isScalar _ := Text.isScalar_ofString _

theorem Style.isReadable_spaced : Style.spaced.IsReadable where
  comma := ⟨[.scalar ' '], rfl, by simp [isSpace]⟩
  colon := ⟨[.scalar ' '], rfl, by simp [isSpace]⟩
  float _ finite _ := readScalar_writeFloat finite
  isScalar := isScalar_writeFloat

/-! ## Strings -/

section

variable {opening : Nat} {rest after : Text} {pieces : List Piece} {asciiOnly : Bool}

/-- In front of others the pieces are joined to the code point. -/
def Spell (own : List Piece) (point : CodePoint) : Prop :=
  ∀ more, joinPieces (own ++ more) = point :: joinPieces more

/-- The number of a character spells it, alone or as two halves. -/
theorem spell_numberPieces (char : Char) :
    Spell (numberPieces (CodePoint.scalar char).value) (.scalar char) := by
  have found := CodePoint.ofNat?_value char
  have valid : (CodePoint.scalar char).value < 0xD800 ∨
      0xDFFF < (CodePoint.scalar char).value ∧ (CodePoint.scalar char).value < 0x110000 :=
    char.valid
  generalize (CodePoint.scalar char).value = number at found valid
  intro more
  by_cases small : number < 0x10000
  · have noHigh : CodePoint.isHighHalf number = false := by
      simp only [CodePoint.isHighHalf, Bool.and_eq_false_iff, decide_eq_false_iff_not]
      omega
    rw [numberPieces, if_pos small, List.singleton_append]
    rcases more with _ | ⟨next | low, rest⟩
    · simp [joinPieces, found]
    · simp [joinPieces, found]
    · simp [joinPieces, found, noHigh]
  · have halves : (CodePoint.isHighHalf (0xD800 + (number - 0x10000) / 0x400) &&
        CodePoint.isLowHalf (0xDC00 + (number - 0x10000) % 0x400)) = true := by
      simp only [CodePoint.isHighHalf, CodePoint.isLowHalf, Bool.and_eq_true, decide_eq_true_eq]
      omega
    have joined : CodePoint.joinHalves (0xD800 + (number - 0x10000) / 0x400)
        (0xDC00 + (number - 0x10000) % 0x400) = number := by
      unfold CodePoint.joinHalves
      omega
    simp only [numberPieces, if_neg small, List.cons_append, List.nil_append, joinPieces, halves,
      if_true, joined, found]
    rfl

theorem spell_pointPieces (char : Char) : Spell (pointPieces (.scalar char)) (.scalar char) := by
  unfold pointPieces
  split
  · exact fun _ => rfl
  · exact spell_numberPieces char

/-- Outside of ASCII a character that is not escaped stands for itself. -/
theorem writePoint_false (point : CodePoint) :
    writePoint false point = writePoint true point ∨
      writePoint false point = [point] ∧ point.is '"' = false ∧ point.is '\\' = false ∧
        32 ≤ point.value := by
  by_cases short : point ∈ shortEscapes
  · left
    simp only [shortEscapes, List.mem_cons, List.not_mem_nil, or_false] at short
    rcases short with rfl | rfl | rfl | rfl | rfl | rfl | rfl <;> rfl
  · by_cases control : point.value < 32
    · left
      simp [writePoint, control]
    · right
      simp only [shortEscapes, List.mem_cons, List.not_mem_nil, or_false, not_or] at short
      rcases short with ⟨noQuote, noBackslash, noFeed, noReturn, noTab, noBack, noForm⟩
      have notBack : point.value ≠ 8 := by omega
      have notForm : point.value ≠ 12 := by omega
      simp only [writePoint, CodePoint.is_eq_true_iff, noQuote, noBackslash, noFeed, noReturn,
        noTab, notBack, notForm, control, if_false, Bool.false_and, Bool.false_eq_true, true_and]
      exact ⟨by simpa [← Bool.not_eq_true, CodePoint.is_eq_true_iff] using noQuote,
        by simpa [← Bool.not_eq_true, CodePoint.is_eq_true_iff] using noBackslash, by omega⟩

/-- A written character is read as pieces that spell it. -/
theorem exists_pieces_writePoint (asciiOnly : Bool) (char : Char)
    (later : readPieces opening rest = .ok (pieces, after)) :
    ∃ own, readPieces opening (writePoint asciiOnly (.scalar char) ++ rest) =
      .ok (own ++ pieces, after) ∧ Spell own (.scalar char) := by
  have escaped : ∃ own, readPieces opening (writePoint true (.scalar char) ++ rest) =
      .ok (own ++ pieces, after) ∧ Spell own (.scalar char) :=
    ⟨_, readPieces_writePoint later _, spell_pointPieces char⟩
  cases asciiOnly with
  | true => exact escaped
  | false =>
      rcases writePoint_false (.scalar char) with same | ⟨plain, noQuote, noBackslash, visible⟩
      · rw [same]
        exact escaped
      · rw [plain]
        exact ⟨[.plain (.scalar char)], readPieces_plain later noQuote noBackslash visible,
          fun _ => rfl⟩

/-- A written scalar text is read up to its closing quote. -/
theorem readString_write (asciiOnly : Bool) {text : Text} (scalar : text.IsScalar) (rest : Text) :
    readString (text.flatMap (writePoint asciiOnly) ++ .scalar '"' :: rest) = .ok (text, rest) := by
  have read (opening : Nat) : ∃ pieces,
      readPieces opening (text.flatMap (writePoint asciiOnly) ++ .scalar '"' :: rest) =
        .ok (pieces, rest) ∧ joinPieces pieces = text := by
    induction text with
    | nil => exact ⟨[], by rw [List.flatMap_nil, List.nil_append, readPieces.eq_def]; rfl, rfl⟩
    | cons point others ih =>
        rcases scalar point (by simp) with ⟨char, rfl⟩
        rcases ih fun other listed => scalar other (by simp [listed]) with ⟨pieces, later, joined⟩
        rcases exists_pieces_writePoint asciiOnly char later with
          ⟨own, front, spells⟩
        refine ⟨own ++ pieces, ?_, by rw [spells, joined]⟩
        rw [List.flatMap_cons, List.append_assoc, front]
  rcases read ((text.flatMap (writePoint asciiOnly) ++ .scalar '"' :: rest).length + 1) with
    ⟨pieces, found, joined⟩
  simp only [readString, found, joined]

end

/-! ## The beginning of a value -/

section

variable {style : Style} {bound depth : Nat} {items : List Json} {fields : Entries Json}

/-- The characters that no value begins with, of those that are read in front of one. -/
def marks : List Char := [' ', '\t', '\n', '\r', ']', '\x7d', '\uFEFF']

theorem readValue_mark {char : Char} (mark : char ∈ marks) (bound depth : Nat) (behind : Text) :
    readValue .values bound depth (.scalar char :: behind) =
      .error (.flaw .value (behind.length + 1)) := by
  simp only [marks, List.mem_cons, List.not_mem_nil, or_false] at mark
  rcases mark with rfl | rfl | rfl | rfl | rfl | rfl | rfl <;> cases depth <;> rfl

theorem not_mark_of_readValue {point : CodePoint} {behind : Text} {result : Json × Text}
    (read : readValue .values bound depth (point :: behind) = .ok result) {char : Char}
    (mark : char ∈ marks) : point.is char = false := by
  rw [← Bool.not_eq_true, CodePoint.is_eq_true_iff]
  rintro rfl
  rw [readValue_mark mark] at read
  cases read

/-- What is read as a value begins with no blank and no closing bracket. -/
theorem exists_cons_of_readValue {source : Text} {result : Json × Text}
    (read : readValue .values bound depth source = .ok result) :
    ∃ point behind, source = point :: behind ∧ isSpace point = false ∧ point.is ']' = false := by
  cases source with
  | nil => cases depth <;> cases read
  | cons point behind =>
      have noMark {char : Char} (mark : char ∈ marks) := not_mark_of_readValue read mark
      refine ⟨point, behind, rfl, ?_, noMark (by decide)⟩
      rw [isSpace, noMark (by decide), noMark (by decide), noMark (by decide), noMark (by decide)]
      rfl

theorem skipSpace_of_readValue {source : Text} {result : Json × Text}
    (read : readValue .values bound depth source = .ok result) {blanks : Text}
    (blank : ∀ point ∈ blanks, isSpace point = true) : skipSpace (blanks ++ source) = source := by
  rcases exists_cons_of_readValue read with ⟨point, behind, rfl, noBlank, _⟩
  rw [skipSpace, List.dropWhile_append_of_pos blank, List.dropWhile_cons_of_neg (by simp [noBlank])]

theorem skipSpace_eq_self {source : Text} {result : Json × Text}
    (read : readValue .values bound depth source = .ok result) : skipSpace source = source :=
  skipSpace_of_readValue read (fun _ listed => absurd listed List.not_mem_nil)

/-- The text of a value is read as this value, and what stands behind it is left. -/
def Reads (style : Style) (bound depth : Nat) (value : Json) : Prop :=
  ∀ rest, Follows rest →
    readValue .values bound depth (value.write style ++ rest) = .ok (value, rest)

theorem Reads.write_ne_nil {value : Json} (reads : Reads style bound depth value) :
    value.write style ≠ [] := by
  intro empty
  have nothing := reads [] follows_nil
  rw [empty] at nothing
  cases depth <;> cases nothing

/-! ## Lists -/

theorem writeItems_eq (style : Style) (items : List Json) :
    writeItems style items =
      Text.joinWith (Text.ofString style.comma) (items.map (write style)) := by
  induction items with
  | nil => rfl
  | cons first others ih =>
      cases others with
      | nil => rfl
      | cons next more => simpa [writeItems, Text.joinWith] using ih

/-- Behind an item or a field stands something that ends it. -/
theorem follows_behindPiece (readable : style.IsReadable) (others : List Text) {ending : Text}
    (follows : Follows ending) :
    Follows (Text.behindPiece (Text.ofString style.comma) others ending) := by
  cases others with
  | nil => exact follows
  | cons next more =>
      rcases readable.comma with ⟨blanks, comma, _⟩
      rw [Text.behindPiece_cons comma]
      exact follows_comma _

/-- Items up to the closing bracket are read one after the other. -/
theorem readItems_write (readable : style.IsReadable) {first : Json} {others : List Json}
    (reads : ∀ item ∈ first :: others, Reads style bound depth item) {count : Nat}
    (many : others.length < count) (rest : Text) :
    readItems (readValue .values bound depth) count
        (writeItems style (first :: others) ++ .scalar ']' :: rest) =
      .ok (first :: others, rest) := by
  induction others generalizing first count with
  | nil =>
      rcases Nat.exists_eq_succ_of_ne_zero (Nat.ne_of_gt many) with ⟨count, rfl⟩
      have own := reads first (by simp) _ (follows_bracket rest)
      simp only [writeItems, readItems, own]
      rfl
  | cons next more ih =>
      rcases readable.comma with ⟨blanks, comma, blank⟩
      rw [List.length_cons] at many
      rcases Nat.exists_eq_succ_of_ne_zero (Nat.ne_of_gt (Nat.zero_lt_of_lt many)) with
        ⟨count, rfl⟩
      have follows (others : List Text) :=
        follows_behindPiece readable others (follows_bracket rest)
      have own := reads first (by simp) _ (follows ((next :: more).map (write style)))
      have later := @ih next (fun item listed => reads item (List.mem_cons_of_mem _ listed)) count
        (by omega)
      have starts := skipSpace_of_readValue
        (reads next (by simp) _ (follows (more.map (write style)))) blank
      rw [writeItems_eq, List.map_cons, Text.joinWith_cons_append] at later
      rw [writeItems_eq, List.map_cons, Text.joinWith_cons_append, readItems, own]
      simp only [List.map_cons, Text.behindPiece_cons comma, skipSpace_of_follows (follows_comma _),
        starts, later]
      rfl

/-- A written list is read as its items. -/
theorem reads_array (readable : style.IsReadable)
    (reads : ∀ item ∈ items, Reads style bound depth item)
    (fits : ((array items).write style).length ≤ bound) :
    Reads style bound (depth + 1) (.array items) := by
  intro rest _
  cases items with
  | nil => rfl
  | cons first others =>
      have filled : ∀ piece ∈ (first :: others).map (write style), piece ≠ [] := by
        intro piece listed
        rcases List.mem_map.1 listed with ⟨item, isItem, rfl⟩
        exact (reads item isItem).write_ne_nil
      have many : others.length < bound := by
        have short := Text.length_le_joinWith (Text.ofString style.comma) filled
        simp only [write, writeItems_eq, Text.ofChar, List.length_append, List.length_cons,
          List.length_map] at fits short
        omega
      have own := reads first (by simp) _
        (follows_behindPiece readable (others.map (write style)) (follows_bracket rest))
      have starts := skipSpace_eq_self own
      have inner := readItems_write readable reads many rest
      rcases exists_cons_of_readValue own with ⟨point, behind, begins, _, noBracket⟩
      have shape : (array (first :: others)).write style ++ rest =
          .scalar '[' :: (writeItems style (first :: others) ++ .scalar ']' :: rest) := by
        simp [write, Text.ofChar]
      rw [writeItems_eq, List.map_cons, Text.joinWith_cons_append, begins] at inner
      rw [shape, writeItems_eq, List.map_cons, Text.joinWith_cons_append, readValue]
      rw [begins] at starts ⊢
      simp only [starts, noBracket, inner]
      rfl

/-! ## Objects -/

/-- A field with its name in quotes and a colon. -/
def writeField (style : Style) (field : Text × Json) : Text :=
  writeString style.asciiOnly field.1 ++ Text.ofString style.colon ++ field.2.write style

theorem writeFields_eq (style : Style) (fields : Entries Json) :
    writeFields style fields =
      Text.joinWith (Text.ofString style.comma) (fields.map (writeField style)) := by
  induction fields with
  | nil => rfl
  | cons first others ih =>
      cases others with
      | nil => rfl
      | cons next more => simpa [writeFields, Text.joinWith, writeField] using ih

/-- A field is read up to what stands behind its value. -/
theorem readFields_field (readable : style.IsReadable) {field : Text × Json}
    (named : field.1.IsScalar) (reads : Reads style bound depth field.2) (count : Nat)
    {point : CodePoint} {behind : Text} (follows : Follows (point :: behind)) :
    readFields (readValue .values bound depth) (count + 1)
        (writeField style field ++ point :: behind) =
      if point.is '}' then .ok ([field], behind)
      else if point.is ',' then
        (readFields (readValue .values bound depth) count (skipSpace behind)).map
          fun (fields, rest) => (field :: fields, rest)
      else .error (.flaw .comma (behind.length + 1)) := by
  rcases readable.colon with ⟨blanks, colon, blank⟩
  have own := reads (point :: behind) follows
  have starts := skipSpace_of_readValue own blank
  have name := readString_write style.asciiOnly named
    (.scalar ':' :: (blanks ++ (field.2.write style ++ point :: behind)))
  have shape : writeField style field ++ point :: behind =
      .scalar '"' :: (field.1.flatMap (writePoint style.asciiOnly) ++ .scalar '"' ::
        .scalar ':' :: (blanks ++ (field.2.write style ++ point :: behind))) := by
    simp [writeField, writeString, Text.ofChar, colon]
  have kept : skipSpace (.scalar ':' :: (blanks ++ (field.2.write style ++ point :: behind))) =
      .scalar ':' :: (blanks ++ (field.2.write style ++ point :: behind)) := rfl
  rw [shape, readFields]
  simp only [name, kept, starts, own, skipSpace_of_follows follows, CodePoint.is_scalar, BEq.rfl,
    Bool.not_true, Bool.false_eq_true, if_false]
  cases readFields (readValue .values bound depth) count (skipSpace behind) <;> rfl

/-- Fields up to the closing brace are read one after the other. -/
theorem readFields_write (readable : style.IsReadable) {first : Text × Json} {others : Entries Json}
    (named : ∀ field ∈ first :: others, field.1.IsScalar)
    (reads : ∀ field ∈ first :: others, Reads style bound depth field.2) {count : Nat}
    (many : others.length < count) (rest : Text) :
    readFields (readValue .values bound depth) count
        (writeFields style (first :: others) ++ .scalar '\x7d' :: rest) =
      .ok (first :: others, rest) := by
  induction others generalizing first count with
  | nil =>
      rcases Nat.exists_eq_succ_of_ne_zero (Nat.ne_of_gt many) with ⟨count, rfl⟩
      rw [writeFields_eq, List.map_cons, Text.joinWith_cons_append]
      exact readFields_field readable (named first (by simp)) (reads first (by simp)) count
        (follows_brace rest)
  | cons next more ih =>
      rcases readable.comma with ⟨blanks, comma, blank⟩
      rw [List.length_cons] at many
      rcases Nat.exists_eq_succ_of_ne_zero (Nat.ne_of_gt (Nat.zero_lt_of_lt many)) with
        ⟨count, rfl⟩
      have later := @ih next (fun field listed => named field (List.mem_cons_of_mem _ listed))
        (fun field listed => reads field (List.mem_cons_of_mem _ listed)) count (by omega)
      have starts : skipSpace (blanks ++ (writeField style next ++
          Text.behindPiece (Text.ofString style.comma) (more.map (writeField style))
            (.scalar '\x7d' :: rest))) = writeField style next ++
          Text.behindPiece (Text.ofString style.comma) (more.map (writeField style))
            (.scalar '\x7d' :: rest) := by
        rw [skipSpace, List.dropWhile_append_of_pos blank]
        simp [writeField, writeString, Text.ofChar, isSpace]
      rw [writeFields_eq, List.map_cons, Text.joinWith_cons_append] at later
      rw [writeFields_eq, List.map_cons, Text.joinWith_cons_append, List.map_cons,
        Text.behindPiece_cons comma,
        readFields_field readable (named first (by simp)) (reads first (by simp)) count
          (follows_comma _), starts, later]
      rfl

/-- A written object is read as its fields, if their names differ. -/
theorem reads_object (readable : style.IsReadable) (distinct : (fields.map Prod.fst).Nodup)
    (named : ∀ field ∈ fields, field.1.IsScalar)
    (reads : ∀ field ∈ fields, Reads style bound depth field.2)
    (fits : ((object fields).write style).length ≤ bound) :
    Reads style bound (depth + 1) (.object fields) := by
  intro rest _
  cases fields with
  | nil => rfl
  | cons first others =>
      have filled : ∀ piece ∈ (first :: others).map (writeField style), piece ≠ [] := by
        intro piece listed
        rcases List.mem_map.1 listed with ⟨field, _, rfl⟩
        simp [writeField, writeString, Text.ofChar]
      have many : others.length < bound := by
        have short := Text.length_le_joinWith (Text.ofString style.comma) filled
        simp only [write, writeFields_eq, Text.ofChar, List.length_append, List.length_cons,
          List.length_map] at fits short
        omega
      have inner := readFields_write readable named reads many rest
      have shape : (object (first :: others)).write style ++ rest =
          .scalar '\x7b' :: (writeFields style (first :: others) ++ .scalar '\x7d' :: rest) := by
        simp [write, Text.ofChar]
      have starts : ∃ behind, writeFields style (first :: others) ++ .scalar '\x7d' :: rest =
          .scalar '"' :: behind := by
        rw [writeFields_eq, List.map_cons, Text.joinWith_cons_append]
        exact ⟨_, by simp [writeField, writeString, Text.ofChar]; rfl⟩
      rcases starts with ⟨behind, begins⟩
      have kept : skipSpace (.scalar '"' :: behind) = .scalar '"' :: behind := rfl
      rw [begins] at inner
      rw [shape, begins, readValue]
      simp only [kept, inner, CodePoint.is_scalar, Except.map, Entries.putAll_nil distinct]
      rfl

/-! ## Values -/

/-- What is read as a scalar begins with no quote and no opening bracket. -/
theorem readValue_of_readScalar {source : Text} {result : Json × Text}
    (read : readScalar .values source = .ok result) :
    readValue .values bound depth source = .ok result := by
  cases source with
  | nil => cases read
  | cons point behind =>
      have noMark (char : Char) (mark : char ∈ ['"', '[', '\x7b']) : point.is char = false := by
        rw [← Bool.not_eq_true, CodePoint.is_eq_true_iff]
        rintro rfl
        simp only [List.mem_cons, List.not_mem_nil, or_false] at mark
        rcases mark with rfl | rfl | rfl <;> cases read
      have noQuote := noMark '"' (by simp)
      have noBracket := noMark '[' (by simp)
      have noBrace := noMark '\x7b' (by simp)
      cases depth <;> simp [readValue, noQuote, noBracket, noBrace, read]

theorem reads_int {number : Int} (short : (Text.ofNat number.natAbs).length ≤ integerDigitLimit) :
    Reads style bound depth (.int number) :=
  fun _ follows => readValue_of_readScalar (readScalar_ofInt short follows)

theorem reads_float (readable : style.IsReadable) {number : Float}
    (finite : number.isFinite = true) : Reads style bound depth (.float number) :=
  fun rest follows => readValue_of_readScalar (readable.float number finite rest follows)

theorem reads_string {text : Text} (scalar : text.IsScalar) :
    Reads style bound depth (.string text) := by
  intro rest _
  have own := readString_write style.asciiOnly scalar rest
  have shape : (Json.string text).write style ++ rest =
      .scalar '"' :: (text.flatMap (writePoint style.asciiOnly) ++ .scalar '"' :: rest) := by
    simp [write, writeString, Text.ofChar]
  rw [shape]
  cases depth with
  | zero => simp [readValue, own, Except.map]
  | succ depth => simp [readValue, own, Except.map]

/-- A plain value is read as it was written. -/
theorem IsPlain.reads (readable : style.IsReadable) {value : Json} (plain : IsPlain depth value)
    (fits : (value.write style).length ≤ bound) : Reads style bound depth value := by
  induction plain with
  | @null depth => exact fun rest _ => by cases depth <;> rfl
  | @bool depth flag => exact fun rest _ => by cases depth <;> cases flag <;> rfl
  | int short => exact reads_int short
  | float finite => exact reads_float readable finite
  | string scalar => exact reads_string scalar
  | array all ih =>
      refine reads_array readable (fun item listed => ih item listed ?_) fits
      have inside := Text.length_le_joinWith_of_mem (Text.ofString style.comma)
        (List.mem_map_of_mem (f := write style) listed)
      simp only [write, writeItems_eq, Text.ofChar, List.length_append, List.length_cons] at fits
      omega
  | object distinct named all ih =>
      refine reads_object readable distinct named (fun field listed => ih field listed ?_) fits
      have inside := Text.length_le_joinWith_of_mem (Text.ofString style.comma)
        (List.mem_map_of_mem (f := writeField style) listed)
      simp only [write, writeFields_eq, writeField, Text.ofChar, List.length_append,
        List.length_cons] at fits inside
      omega

/-- A plain value is read back from its text. -/
theorem read_write (readable : style.IsReadable) {value : Json}
    {limit : Nat} (plain : IsPlain limit value) :
    read .values (value.write style) limit = .ok value := by
  have whole := plain.reads readable (Nat.le_refl _) [] follows_nil
  rw [List.append_nil] at whole
  rcases exists_cons_of_readValue whole with ⟨point, behind, begins, _⟩
  have readWhole : readWhole .values (value.write style) limit = .ok value := by
    rw [readWhole, skipSpace_eq_self whole, whole]
    rfl
  rw [begins] at whole readWhole ⊢
  have unmarked : point.value ≠ 0xFEFF := by
    intro (order : point.value = '\uFEFF'.toNat)
    have noMark : point.is '\uFEFF' = false := not_mark_of_readValue whole (by decide)
    rw [CodePoint.eq_scalar_of_value order] at noMark
    cases noMark
  simp only [read, unmarked, if_false, readWhole]

end

end Json

end FleetGate
