import FleetGate.Database.Record
import FleetGate.Proofs.Text.Scalar
import FleetGate.Proofs.Timestamp.Stored

/-!
# Cells

A column of numbers or timestamps turns a text that spells a number into that number. Stored
timestamps and JSON texts spell none, because a mark stops the digits that they begin with, so they
stay as they are. Words, flags and timestamps are read back from the cells that they were put into.
-/

namespace FleetGate

namespace Cell

/-! ## Texts that spell no number -/

/-- A blank around a number. -/
def isBlank (point : CodePoint) : Bool :=
  point.value == 32 || (9 ≤ point.value && point.value ≤ 13)

theorem isBlank_point (number : Nat) : isBlank (Digit.point 10 number) = false := by
  have all : ∀ digit < 10, isBlank (.scalar (Nat.digitChar digit)) = false := by
    decide
  exact all (number % 10) (Nat.mod_lt number (by omega))

theorem lowerAscii_point (number : Nat) :
    Text.lowerAscii [Digit.point 10 number] = [Digit.point 10 number] := by
  have all : ∀ digit < 10, Text.lowerAscii [.scalar (Nat.digitChar digit)] =
      [.scalar (Nat.digitChar digit)] := by
    decide
  exact all (number % 10) (Nat.mod_lt number (by omega))

/-- Trimming stops in front of the first mark and behind the last one. -/
theorem exists_trimmed {front : Text} {mark : CodePoint}
    (visible : ∀ point ∈ front ++ [mark], isBlank point = false) (rest : Text) :
    ∃ kept, ((((front ++ mark :: rest).dropWhile isBlank).reverse.dropWhile isBlank).reverse) =
      front ++ mark :: kept := by
  have start : (front ++ mark :: rest).dropWhile isBlank = front ++ mark :: rest := by
    cases front with
    | nil => simp [visible mark (by simp)]
    | cons first others => simp [visible first (by simp)]
  rw [start, List.reverse_append, List.reverse_cons, List.append_assoc, List.singleton_append,
    List.dropWhile_append]
  split
  · refine ⟨[], ?_⟩
    simp [visible mark (by simp)]
  · refine ⟨(rest.reverse.dropWhile isBlank).reverse, ?_⟩
    simp

theorem spanDigits_append {mark : CodePoint} (noDigit : mark.asciiDigit? = none)
    (front : List Nat) (rest : Text) :
    Text.spanDigits (front.map (Digit.point 10) ++ mark :: rest) =
      (front.map (· % 10), mark :: rest) := by
  induction front with
  | nil => simp [Text.spanDigits, noDigit]
  | cons number others ih => simp [Text.spanDigits, ih]

/-- A mark that can neither stand in a number nor around it, a sign apart. -/
structure Stops (mark : CodePoint) : Prop where
  visible : isBlank mark = false
  lower : Text.lowerAscii [mark] = [mark]
  noDigit : mark.asciiDigit? = none
  noPoint : mark.is '.' = false
  noExponent : mark.is 'e' = false

theorem lowerAscii_append (left right : Text) :
    Text.lowerAscii (left ++ right) = Text.lowerAscii left ++ Text.lowerAscii right :=
  List.map_append

theorem lowerAscii_stops {mark : CodePoint} (stops : Stops mark) (front : List Nat) (rest : Text) :
    Text.lowerAscii (front.map (Digit.point 10) ++ mark :: rest) =
      front.map (Digit.point 10) ++ mark :: Text.lowerAscii rest := by
  induction front with
  | nil =>
      have split : mark :: rest = [mark] ++ rest := rfl
      rw [List.map_nil, List.nil_append, split, lowerAscii_append, stops.lower]
      rfl
  | cons number others ih =>
      have split : (number :: others).map (Digit.point 10) ++ mark :: rest =
          [Digit.point 10 number] ++ (others.map (Digit.point 10) ++ mark :: rest) := rfl
      rw [split, lowerAscii_append, lowerAscii_point, ih]
      rfl

/-- Digits in front of a mark that stops them are no sign. -/
theorem takeSign_stops {front : List Nat} {mark : CodePoint}
    (noSign : front = [] → mark.is '-' = false ∧ mark.is '+' = false) (rest : Text) :
    Text.takeSign (front.map (Digit.point 10) ++ mark :: rest) =
      (false, front.map (Digit.point 10) ++ mark :: rest) := by
  cases front with
  | nil =>
      rcases noSign rfl with ⟨noMinus, noPlus⟩
      simp [Text.takeSign, noMinus, noPlus]
  | cons number others =>
      simp [Text.takeSign, Digit.is_point '-' rfl,
        Digit.is_point '+' rfl]

/-- A text in which a mark stops the digits that it begins with spells no number. -/
theorem ofNumeral?_stops (front : List Nat) {mark : CodePoint} (stops : Stops mark)
    (noSign : front = [] → mark.is '-' = false ∧ mark.is '+' = false) (rest : Text) :
    ofNumeral? (front.map (Digit.point 10) ++ mark :: rest) = none := by
  have visible : ∀ point ∈ front.map (Digit.point 10) ++ [mark], isBlank point = false := by
    intro point listed
    rcases List.mem_append.1 listed with digit | last
    · rcases List.mem_map.1 digit with ⟨number, _, rfl⟩
      exact isBlank_point number
    · rw [List.mem_singleton.1 last]
      exact stops.visible
  have noDecimal (kept : Text) :
      Text.toDecimal? (front.map (Digit.point 10) ++ mark :: kept) = none := by
    simp [Text.toDecimal?, spanDigits_append stops.noDigit, stops.noPoint, Text.exponentOf?,
      stops.noExponent]
  rcases exists_trimmed visible rest with ⟨kept, trimmed⟩
  unfold isBlank at trimmed
  simp only [ofNumeral?, trimmed, takeSign_stops noSign, lowerAscii_stops stops,
    spanDigits_append stops.noDigit, noDecimal, Option.map_none]
  cases front <;> rfl

/-- A stored timestamp is no number. -/
theorem ofNumeral?_dayText {timestamp : Timestamp} (calendar : timestamp.IsCalendar)
    (rest : Text) : ofNumeral? (timestamp.dayText ++ rest) = none := by
  have stops : Stops (.scalar '-') := ⟨rfl, rfl, rfl, rfl, rfl⟩
  rw [Timestamp.dayText_eq calendar]
  exact ofNumeral?_stops [timestamp.year / 10 / 10 / 10, timestamp.year / 10 / 10,
    timestamp.year / 10, timestamp.year] stops (by simp) _

/-- A stored list is no number. -/
theorem ofNumeral?_array (style : Json.Style) (items : List Json) :
    ofNumeral? ((Json.array items).write style) = none := by
  have stops : Stops (.scalar '[') := ⟨rfl, rfl, rfl, rfl, rfl⟩
  rw [Json.write]
  exact ofNumeral?_stops [] stops (fun _ => ⟨rfl, rfl⟩) _

/-- A stored null is no number. -/
theorem ofNumeral?_null (style : Json.Style) : ofNumeral? (Json.null.write style) = none := by
  have stops : Stops (.scalar 'n') := ⟨rfl, rfl, rfl, rfl, rfl⟩
  rw [Json.write]
  exact ofNumeral?_stops [] stops (fun _ => ⟨rfl, rfl⟩) _

end Cell

namespace Record

/-! ## Reading cells -/

theorem readWord_wordCell {α : Type} [Vocabulary α] {member : α}
    (named : Vocabulary.ofName? (Text.ofString (Vocabulary.name member)) = some member) :
    readWord α (wordCell member) = .ok member := by
  simp [readWord, wordCell, Cell.asText, named]

theorem readWord_fleet (fleet : Fleet) : readWord Fleet (wordCell fleet) = .ok fleet :=
  readWord_wordCell (by cases fleet <;> rfl)

theorem readWord_status (status : DriverStatus) :
    readWord DriverStatus (wordCell status) = .ok status :=
  readWord_wordCell (by cases status <;> rfl)

theorem readWord_role (role : Role) : readWord Role (wordCell role) = .ok role :=
  readWord_wordCell (by cases role <;> rfl)

theorem readWord_access (access : FleetAccess) :
    readWord FleetAccess (wordCell access) = .ok access :=
  readWord_wordCell (by cases access <;> rfl)

end Record

end FleetGate
