import FleetGate.Number.Nearest
import FleetGate.Text.Blank
import FleetGate.Text.Digits

/-!
# Numbers written in texts

Reading an integer or a double out of a text. White space around the number is skipped, digits of
any script count, and single underscores may stand between digits. An integer of more than 4300
digits is refused.
-/

namespace FleetGate

/-- Longest run of digits that is read as an integer. -/
def integerDigitLimit : Nat := 4300

/-- The value of digits read from the most significant on. -/
def natOfDigits (digits : List Nat) : Nat :=
  digits.foldl (fun total digit => 10 * total + digit) 0

/-- The nearest double of an integer, or nothing when it is too large for one. -/
def floatOfInt? (number : Int) : Option Float :=
  let float := Decimal.toFloat ⟨number.natAbs, 0⟩ (number < 0)
  if float.isInf then none else some float

namespace Text

/-- A sign at the start of a text: whether it is a minus, and what follows. -/
def takeSign (text : Text) : Bool × Text :=
  match text with
  | point :: rest =>
    if point.is '-' then (true, rest) else if point.is '+' then (false, rest) else (false, text)
  | [] => (false, [])

/-- The digits of a text whose single underscores all stand between two digits. -/
def groupedDigits? (afterDigit : Bool) : Text → Option (List Nat)
  | [] => if afterDigit then some [] else none
  | point :: rest =>
    match point.digit? with
    | some digit => (groupedDigits? true rest).map (digit :: ·)
    | none => if afterDigit && point.is '_' then groupedDigits? false rest else none

/-- The integer that a text spells. -/
def toInt? (text : Text) : Option Int :=
  let (negative, rest) := takeSign text.trimSpace
  match groupedDigits? false rest with
  | none => none
  | some digits =>
    if integerDigitLimit < digits.length then none
    else
      let magnitude : Int := natOfDigits digits
      some (if negative then -magnitude else magnitude)

/-- Drops underscores that stand between two digits; any other underscore is refused. -/
def dropUnderscores? (afterDigit : Bool) : Text → Option Text
  | [] => some []
  | point :: rest =>
    if point.is '_' then
      match rest with
      | next :: _ =>
        if afterDigit && next.asciiDigit?.isSome then dropUnderscores? false rest else none
      | [] => none
    else (dropUnderscores? point.asciiDigit?.isSome rest).map (point :: ·)

/-- Digits of any script as ASCII digits. -/
def plainDigits (text : Text) : Text :=
  text.map fun point =>
    match point.digit? with
    | some digit => .scalar (Char.ofNat (48 + digit))
    | none => point

/-- The ASCII digits at the start of a text and what follows them. -/
def spanDigits : Text → List Nat × Text
  | [] => ([], [])
  | point :: rest =>
    match point.asciiDigit? with
    | some digit => let (digits, after) := spanDigits rest; (digit :: digits, after)
    | none => ([], point :: rest)

/-- The exponent at the end of a number: the letter, an optional sign and digits. -/
def exponentOf? (text : Text) : Option Int :=
  match text with
  | [] => some 0
  | point :: rest =>
    if point.is 'e' then
      let (negative, rest) := takeSign rest
      match spanDigits rest with
      | ([], _) => none
      | (digits, []) =>
        let magnitude : Int := natOfDigits digits
        some (if negative then -magnitude else magnitude)
      | (_, _ :: _) => none
    else none

/-- An unsigned decimal with optional point and exponent. -/
def toDecimal? (text : Text) : Option Decimal :=
  let (whole, rest) := spanDigits text
  let (fraction, rest) :=
    match rest with
    | point :: after => if point.is '.' then spanDigits after else ([], rest)
    | [] => ([], [])
  if whole.isEmpty && fraction.isEmpty then none
  else
    (exponentOf? rest).map fun exponent =>
      ⟨natOfDigits (whole ++ fraction), exponent - fraction.length⟩

/-- The double that a text spells. -/
def toFloat? (text : Text) : Option Float :=
  match dropUnderscores? false (plainDigits text.trimSpace) with
  | none => none
  | some text =>
    let (negative, rest) := takeSign text.lowerAscii
    let signed (magnitude : Float) : Float := if negative then -magnitude else magnitude
    if rest = ofString "inf" ∨ rest = ofString "infinity" then some (signed (1.0 / 0.0))
    else if rest = ofString "nan" then some (0.0 / 0.0)
    else (toDecimal? rest).map (·.toFloat negative)

end Text

end FleetGate
