import FleetGate.Bytes.Utf8

/-!
# Texts without lone halves

A text is scalar when none of its code points is half of a surrogate pair standing alone. Such
texts are exactly those that have a UTF-8 form. Every text that is put together from strings and
numbers is scalar, so only what comes from outside can bring a lone half along.
-/

namespace FleetGate

namespace Text

/-- No half of a surrogate pair stands alone in the text. -/
def IsScalar (text : Text) : Prop :=
  ∀ point ∈ text, ∃ char, point = .scalar char

@[simp]
theorem isScalar_append {left right : Text} :
    IsScalar (left ++ right) ↔ IsScalar left ∧ IsScalar right := by
  simp only [IsScalar, List.mem_append]
  constructor
  · intro scalar
    exact ⟨fun point point_mem => scalar point (Or.inl point_mem),
      fun point point_mem => scalar point (Or.inr point_mem)⟩
  · rintro ⟨leftScalar, rightScalar⟩ point (point_mem | point_mem)
    · exact leftScalar point point_mem
    · exact rightScalar point point_mem

@[simp]
theorem isScalar_map (chars : List Char) : IsScalar (chars.map .scalar) := by
  intro point point_mem
  rcases List.mem_map.1 point_mem with ⟨char, _, rfl⟩
  exact ⟨char, rfl⟩

@[simp]
theorem isScalar_nil : IsScalar [] := by
  simp [IsScalar]

@[simp]
theorem isScalar_singleton {point : CodePoint} :
    IsScalar [point] ↔ ∃ char, point = .scalar char := by
  simp [IsScalar]

@[simp]
theorem isScalar_ofString (string : String) : IsScalar (ofString string) :=
  isScalar_map string.toList

@[simp]
theorem isScalar_ofChar (char : Char) : IsScalar (ofChar char) :=
  isScalar_map [char]

@[simp]
theorem isScalar_ofNat (number : Nat) : IsScalar (ofNat number) :=
  isScalar_map _

@[simp]
theorem isScalar_ofInt (number : Int) : IsScalar (ofInt number) := by
  unfold ofInt
  split <;> simp

@[simp]
theorem isScalar_ofHex (width number : Nat) : IsScalar (ofHex width number) :=
  isScalar_map _

theorem isScalar_flatMap {α : Type} {pieces : α → Text} {items : List α} :
    IsScalar (items.flatMap pieces) ↔ ∀ item ∈ items, IsScalar (pieces item) := by
  constructor
  · intro scalar item item_mem point inPiece
    exact scalar point (List.mem_flatMap.2 ⟨item, item_mem, inPiece⟩)
  · intro each point point_mem
    rcases List.mem_flatMap.1 point_mem with ⟨item, item_mem, inPiece⟩
    exact each item item_mem point inPiece

theorem isScalar_joinWith {separator : Text} {pieces : List Text}
    (separatorScalar : IsScalar separator) :
    IsScalar (joinWith separator pieces) ↔ ∀ piece ∈ pieces, IsScalar piece := by
  induction pieces with
  | nil => simp [joinWith]
  | cons first rest ih =>
      rw [List.forall_mem_cons, ← ih]
      cases rest with
      | nil => simp [joinWith]
      | cons next rest => simp [joinWith, separatorScalar]

/-- The characters of a text can be read off exactly when the text is scalar. -/
theorem toChars?_eq_some_iff {text : Text} {chars : List Char} :
    text.toChars? = some chars ↔ text = chars.map .scalar := by
  constructor
  · intro read
    induction text generalizing chars with
    | nil =>
        simp only [toChars?, Option.some.injEq] at read
        simp [← read]
    | cons point rest ih =>
        cases point with
        | surrogate half => simp [toChars?] at read
        | scalar char =>
            simp only [toChars?, Option.map_eq_some_iff] at read
            rcases read with ⟨others, restRead, rfl⟩
            simp [ih restRead]
  · rintro rfl
    exact toChars?_map_scalar chars

theorem isScalar_iff_exists_map {text : Text} :
    IsScalar text ↔ ∃ chars : List Char, text = chars.map .scalar := by
  constructor
  · intro scalar
    induction text with
    | nil => exact ⟨[], rfl⟩
    | cons point rest ih =>
        rcases scalar point (by simp) with ⟨char, rfl⟩
        rcases ih (fun point point_mem => scalar point (by simp [point_mem])) with ⟨chars, rfl⟩
        exact ⟨char :: chars, rfl⟩
  · rintro ⟨chars, rfl⟩
    exact isScalar_map chars

end Text

namespace Bytes

theorem ofText_eq_ok_iff {text : Text} {bytes : Bytes} :
    ofText text = .ok bytes ↔
      ∃ chars : List Char, text = chars.map .scalar ∧ ofChars chars = bytes := by
  unfold ofText
  constructor
  · intro written
    split at written
    · rename_i chars read
      exact ⟨chars, Text.toChars?_eq_some_iff.1 read, by simpa using written⟩
    · simp at written
  · rintro ⟨chars, rfl, rfl⟩
    simp [Text.toChars?_map_scalar]

/-- A text has a UTF-8 form exactly when it is scalar. -/
theorem exists_ofText_eq_ok_iff {text : Text} :
    (∃ bytes, ofText text = .ok bytes) ↔ text.IsScalar := by
  simp only [ofText_eq_ok_iff, Text.isScalar_iff_exists_map]
  constructor
  · rintro ⟨bytes, chars, spelled, _⟩
    exact ⟨chars, spelled⟩
  · rintro ⟨chars, spelled⟩
    exact ⟨ofChars chars, chars, spelled, rfl⟩

end Bytes

end FleetGate
