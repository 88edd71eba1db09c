/-!
# Code points and texts

A `Text` is a list of code points. Almost every code point is a Unicode scalar value, that is a
`Char`; the other 2048 are halves of surrogate pairs that stand alone, which an escape such as
`\ud800` inside a JSON string can spell. A text without such halves is the same thing as a
`String` (`toString?_ofString`); a text with one has no UTF-8 form.
-/

namespace FleetGate

/-- One position of a text: a scalar value, or half of a surrogate pair standing alone. -/
inductive CodePoint where
  | scalar (char : Char)
  | surrogate (half : Fin 2048)
  deriving DecidableEq, Inhabited

/-- A text is read and compared code point by code point. -/
abbrev Text := List CodePoint

namespace CodePoint

/-- The number of a code point in the Unicode code space. -/
def value : CodePoint → Nat
  | scalar char => char.toNat
  | surrogate half => 0xD800 + half.val

/-- The code point of a number below `0x110000`. -/
def ofNat? (number : Nat) : Option CodePoint :=
  if valid : number.isValidChar then
    some (scalar (Char.ofNatAux number valid))
  else if inside : 0xD800 ≤ number ∧ number < 0xE000 then
    some (surrogate ⟨number - 0xD800, by omega⟩)
  else
    none

/-- A high half opens a pair. -/
def isHighHalf (number : Nat) : Bool :=
  0xD800 ≤ number && number < 0xDC00

/-- A low half closes a pair. -/
def isLowHalf (number : Nat) : Bool :=
  0xDC00 ≤ number && number < 0xE000

/-- The number of the scalar value that a high and a low half spell together. -/
def joinHalves (high low : Nat) : Nat :=
  0x10000 + (high - 0xD800) * 0x400 + (low - 0xDC00)

/-- The character of a code point, if it is a scalar value. -/
def toChar? : CodePoint → Option Char
  | scalar char => some char
  | surrogate _ => none

/-- A code point is the given character. -/
def is (point : CodePoint) (char : Char) : Bool :=
  match point with
  | scalar own => own == char
  | surrogate _ => false

@[simp]
theorem is_scalar (own char : Char) : (scalar own).is char = (own == char) := rfl

@[simp]
theorem is_surrogate (half : Fin 2048) (char : Char) : (surrogate half).is char = false := rfl

theorem is_eq_true_iff (point : CodePoint) (char : Char) :
    point.is char = true ↔ point = scalar char := by
  cases point <;> simp

end CodePoint

namespace Text

/-- The code points of a string. -/
def ofString (string : String) : Text :=
  string.toList.map .scalar

instance : Coe String Text := ⟨ofString⟩

/-- The text of one character. -/
def ofChar (char : Char) : Text :=
  [.scalar char]

/-- The characters of a text without lone halves. -/
def toChars? : Text → Option (List Char)
  | [] => some []
  | .scalar char :: rest => (toChars? rest).map (char :: ·)
  | .surrogate _ :: _ => none

/-- The string of a text without lone halves. -/
def toString? (text : Text) : Option String :=
  text.toChars?.map String.ofList

theorem toChars?_map_scalar (chars : List Char) :
    toChars? (chars.map .scalar) = some chars := by
  induction chars with
  | nil => rfl
  | cons char rest ih => simp [toChars?, ih]

@[simp]
theorem toString?_ofString (string : String) : toString? (ofString string) = some string := by
  simp [toString?, ofString, toChars?_map_scalar]

theorem ofString_ne_nil {string : String} (given : string ≠ "") : ofString string ≠ [] := by
  simpa [ofString] using given

theorem ofString_injective {left right : String} (same : ofString left = ofString right) :
    left = right := by
  have read : toString? (ofString left) = toString? (ofString right) := by rw [same]
  simpa using read

@[simp]
theorem ofString_append (left right : String) :
    ofString (left ++ right) = ofString left ++ ofString right := by
  simp [ofString]

/-- The decimal digits of a natural number. -/
def ofNat (number : Nat) : Text :=
  (Nat.toDigits 10 number).map .scalar

/-- The decimal digits of an integer, with a sign if it is negative. -/
def ofInt (number : Int) : Text :=
  if number < 0 then ofChar '-' ++ ofNat number.natAbs else ofNat number.natAbs

/-- What stands before the first line feed. -/
def firstLine (text : Text) : Text :=
  text.takeWhile fun point => !point.is '\n'

/-- The pieces between the occurrences of a separator; there is one more than separators. -/
def splitOn (separator : Char) : Text → List Text
  | [] => [[]]
  | point :: rest =>
    match splitOn separator rest with
    | [] => [[point]]
    | piece :: pieces =>
      if point.is separator then [] :: piece :: pieces else (point :: piece) :: pieces

/-- Texts one after the other with a separator between them. -/
def joinWith (separator : Text) : List Text → Text
  | [] => []
  | [last] => last
  | piece :: next :: rest => piece ++ separator ++ joinWith separator (next :: rest)

theorem splitOn_ne_nil (separator : Char) (text : Text) : splitOn separator text ≠ [] := by
  induction text with
  | nil => simp [splitOn]
  | cons point rest ih =>
    rw [splitOn]
    split
    · simp
    · split <;> simp

/-- Putting the separators back restores the text. -/
theorem joinWith_splitOn (separator : Char) (text : Text) :
    joinWith (ofChar separator) (splitOn separator text) = text := by
  induction text with
  | nil => rfl
  | cons point rest ih =>
    have nonempty := splitOn_ne_nil separator rest
    rw [splitOn]
    split
    · contradiction
    · rename_i piece pieces pieces_eq
      rw [pieces_eq] at ih
      split
      · rename_i is_separator
        have := (CodePoint.is_eq_true_iff _ _).1 is_separator
        subst this
        simpa [joinWith, ofChar] using ih
      · cases pieces with
        | nil => simpa [joinWith] using ih
        | cons next others =>
          simp only [joinWith, List.cons_append] at ih ⊢
          rw [ih]

/-- The order of two texts by the numbers of their code points. -/
def le : Text → Text → Bool
  | [], _ => true
  | _ :: _, [] => false
  | left :: lefts, right :: rights =>
    left.value < right.value || (left.value == right.value && le lefts rights)

/-- ASCII letters in lower case. -/
def lowerAscii (text : Text) : Text :=
  text.map fun point =>
    match point with
    | .scalar char => .scalar char.toLower
    | half => half

/-- Whether `pattern` stands at the start of a text. -/
def startsWith (text pattern : Text) : Bool :=
  pattern.isPrefixOf text

/-- Whether `pattern` stands at the end of a text. -/
def endsWith (text pattern : Text) : Bool :=
  pattern.isSuffixOf text

/-- Whether `pattern` stands anywhere in a text. -/
def contains (text pattern : Text) : Bool :=
  match text with
  | [] => pattern.isEmpty
  | _ :: rest => startsWith text pattern || contains rest pattern

theorem contains_iff {text pattern : Text} : contains text pattern = true ↔ pattern <:+: text := by
  induction text with
  | nil => simp [contains]
  | cons point rest ih => simp [contains, startsWith, ih, List.infix_cons_iff]

end Text

end FleetGate
