import FleetGate.Fault
import FleetGate.Number.Spelled
import FleetGate.Text.Digits

/-!
# Path templates

A template is a path in which names in braces stand for parts that vary, each of a kind: a segment
unless another kind stands behind a colon. A path fits a template if it can be cut into pieces that
fit one by one. A template without names fits itself alone, but for a line feed at the end. A part
that is an integer is read as one as soon as a path fits, and too many digits cannot be read.
-/

namespace FleetGate

namespace Template

/-- The kinds of parts that vary. -/
inductive Kind where
  | segment
  | path
  | integer
  | decimal
  | uuid
  deriving DecidableEq, Repr

/-- The word for a kind. -/
def Kind.word : Kind → String
  | segment => "str"
  | path => "path"
  | integer => "int"
  | decimal => "float"
  | uuid => "uuid"

/-- The kind of a word. -/
def Kind.ofWord? (word : Text) : Option Kind :=
  [Kind.segment, .path, .integer, .decimal, .uuid].find? fun kind =>
    Text.ofString kind.word == word

/-- Digits and nothing else. -/
def isDigits (part : Text) : Bool :=
  !part.isEmpty && part.all (·.asciiDigit?.isSome)

/-- Digits, perhaps with a point and more digits behind them. -/
def isDecimal (part : Text) : Bool :=
  match Text.splitOn '.' part with
  | [whole] => isDigits whole
  | [whole, fraction] => isDigits whole && isDigits fraction
  | _ => false

/-- The lengths of the groups of hexadecimal digits in a UUID. -/
def uuidGroups : List Nat := [8, 4, 4, 4, 12]

/-- Groups of hexadecimal digits of these lengths, with or without hyphens in front of all but the
first. -/
def isUuid (first : Bool) : List Nat → Text → Bool
  | [], part => part.isEmpty
  | length :: rest, part =>
    let part := if !first && (part.head?.map (·.is '-')).getD false then part.drop 1 else part
    let digits := part.take length
    digits.length == length && digits.all (·.hexDigit?.isSome) &&
      isUuid false rest (part.drop length)

/-- A part of a path is of a kind. -/
def Kind.accepts : Kind → Text → Bool
  | segment, part => !part.isEmpty && part.all fun point => !point.is '/'
  | path, part => part.all fun point => !point.is '\n'
  | integer, part => isDigits part
  | decimal, part => isDecimal part
  | uuid, part => isUuid true uuidGroups part

/-- A piece of a template: a code point that stands for itself, or a name with the word for its
kind. -/
inductive Piece where
  | point (point : CodePoint)
  | parameter (name word : Text)
  deriving DecidableEq

/-- A character that may open a name. -/
def opensName : CodePoint → Bool
  | .scalar char => char.isAlpha || char == '_'
  | .surrogate _ => false

/-- A character that may stand in a name. -/
def isNamePoint : CodePoint → Bool
  | .scalar char => char.isAlphanum || char == '_'
  | .surrogate _ => false

/-- The name at the start of a text. -/
def nameOf (text : Text) : Text :=
  match text with
  | [] => []
  | point :: _ => if opensName point then text.takeWhile isNamePoint else []

/-- The parameter whose text stands at the start behind an opening brace, and the length of that
text with its closing brace. -/
def parameterAt? (text : Text) : Option (Piece × Nat) :=
  let name := nameOf text
  match name.isEmpty, text.drop name.length with
  | false, mark :: rest =>
    if mark.is '\x7d' then some (.parameter name Kind.segment.word, name.length + 1)
    else
      let word := nameOf rest
      if mark.is ':' && !word.isEmpty &&
          ((rest.drop word.length).head?.map (·.is '\x7d')).getD false then
        some (.parameter name word, name.length + word.length + 2)
      else none
  | _, _ => none

/-- The pieces of a template, while `skip` counts the code points that belong to the last one. -/
def piecesFrom : (skip : Nat) → Text → List Piece
  | _, [] => []
  | skip + 1, _ :: rest => piecesFrom skip rest
  | 0, point :: rest =>
    if point.is '\x7b' then
      match parameterAt? rest with
      | some (piece, length) => piece :: piecesFrom length rest
      | none => .point point :: piecesFrom 0 rest
    else .point point :: piecesFrom 0 rest

/-- The pieces of a template. -/
def pieces (template : Text) : List Piece :=
  piecesFrom 0 template

/-- A path can be cut so that its parts fit the pieces. A line feed at its end is overlooked. -/
def fits : List Piece → Text → Bool
  | [], path => path.isEmpty || path == Text.ofChar '\n'
  | .point own :: rest, path =>
    match path with
    | [] => false
    | point :: behind => own == point && fits rest behind
  | .parameter _ word :: rest, path =>
    match Kind.ofWord? word with
    | none => false
    | some kind =>
      (List.range (path.length + 1)).any fun length =>
        kind.accepts (path.take length) && fits rest (path.drop length)

/-- A path fits a template. -/
def takes (template path : Text) : Bool :=
  fits (pieces template) path

/-- The parts of a path that fit the parameters among the pieces. Of all ways to cut the path the
one counts in which the first part is longest, then the second, and so on. -/
def parts? : List Piece → Text → Option (List (Kind × Text))
  | [], path => if path.isEmpty || path == Text.ofChar '\n' then some [] else none
  | .point own :: rest, path =>
    match path with
    | [] => none
    | point :: behind => if own == point then parts? rest behind else none
  | .parameter _ word :: rest, path =>
    match Kind.ofWord? word with
    | none => none
    | some kind =>
      (List.range (path.length + 1)).reverse.findSome? fun length =>
        if kind.accepts (path.take length) then
          (parts? rest (path.drop length)).map ((kind, path.take length) :: ·)
        else none

theorem isSome_parts? (pieces : List Piece) (path : Text) :
    (parts? pieces path).isSome = fits pieces path := by
  induction pieces generalizing path with
  | nil =>
      simp only [parts?, fits]
      split <;> simp_all
  | cons piece rest ih =>
      cases piece with
      | point own =>
          cases path with
          | nil => rfl
          | cons point behind =>
              simp only [parts?, fits, ← ih]
              split <;> simp_all
      | parameter name word =>
          simp only [parts?, fits]
          cases Kind.ofWord? word with
          | none => rfl
          | some kind =>
              rw [Bool.eq_iff_iff, List.isSome_findSome?, List.any_reverse]
              simp only [List.any_eq_true, Bool.and_eq_true, ← ih]
              refine exists_congr fun length => and_congr_right fun _ => ?_
              split <;> simp_all

/-- The complaint about a part that cannot be read: an integer with too many digits. -/
def Kind.fault? (part : Text) : Kind → Option Fault
  | integer =>
    if integerDigitLimit < part.length then some (Text.tooManyDigits part.length) else none
  | _ => none

/-- The complaint about the first part of a path that cannot be read. -/
def fault? (template path : Text) : Option Fault :=
  (parts? (pieces template) path).bind fun parts =>
    parts.findSome? fun (kind, part) => kind.fault? part

/-- The names in a template with the words for their kinds. -/
def parameters (template : Text) : List (Text × Text) :=
  (pieces template).filterMap fun piece =>
    match piece with
    | .parameter name word => some (name, word)
    | .point _ => none

/-- The names that stand in a list more than once, sorted. -/
def repeated (names : List Text) : List Text :=
  ((names.filter fun name => 1 < names.count name).eraseDups).mergeSort Text.le

/-- The complaint about names that stand in a template more than once. -/
def repeatedNames (names : List Text) (template : Text) : Fault :=
  ⟨.badValue, "Duplicated param name" ++ Text.ofString (if names.length = 1 then " " else "s ") ++
    Text.joinWith ", " names ++ Text.ofString " at path " ++ template⟩

/-- A template must know the kinds of all its names, and each name once. -/
def check (template : Text) : Except Fault Unit :=
  let parameters := parameters template
  let repeated := repeated (parameters.map (·.1))
  match parameters.find? fun (_, word) => (Kind.ofWord? word).isNone with
  | some (_, word) => .error ⟨.assertion, "Unknown path convertor '" ++ word ++ Text.ofChar '\''⟩
  | none => if repeated.isEmpty then .ok () else .error (repeatedNames repeated template)

end Template

end FleetGate
