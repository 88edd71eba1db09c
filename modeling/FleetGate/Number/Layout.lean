import FleetGate.Number.Shortest

/-!
# Layouts of floating-point numbers

Five texts of a double. The plain one is its shortest decimal with a point, positional from
`0.0001` up to sixteen digits before the point and scientific elsewhere. The exposition one
differs in the names of the non-finite values and turns scientific at seven digits before the
point. The brief one writes exponents without padding, and there is no brief text for what is not
finite. The tabular one has at most fifteen digits. The one with fixed places rounds, a half going
to the even neighbour.
-/

namespace FleetGate

namespace Decimal

/-- The number of digits in front of the point, negative for zeros right after it. -/
def pointPosition (decimal : Decimal) : Int :=
  ((Nat.toDigits 10 decimal.digits).length : Int) + decimal.exponent

/-- Digits with a point among them; a whole number keeps one zero after the point. -/
def positional (decimal : Decimal) : List Char :=
  let digits := Nat.toDigits 10 decimal.digits
  let position := decimal.pointPosition
  if position ≤ 0 then
    '0' :: '.' :: List.replicate position.natAbs '0' ++ digits
  else
    let position := position.toNat
    if digits.length ≤ position then
      digits ++ List.replicate (position - digits.length) '0' ++ ['.', '0']
    else
      digits.take position ++ '.' :: digits.drop position

/-- At least two digits of an exponent, with its sign. -/
def exponentPart (exponent : Int) : List Char :=
  let digits := Nat.toDigits 10 exponent.natAbs
  'e' :: (if exponent < 0 then '-' else '+') :: List.replicate (2 - digits.length) '0' ++ digits

/-- One digit in front of the point, and no point without digits after it. -/
def mantissa (decimal : Decimal) : List Char :=
  match Nat.toDigits 10 decimal.digits with
  | [] => []
  | [digit] => [digit]
  | digit :: rest => digit :: '.' :: rest

/-- A mantissa with its exponent. -/
def scientific (decimal : Decimal) : List Char :=
  decimal.mantissa ++ exponentPart (decimal.pointPosition - 1)

/-- Positional between `0.0001` and sixteen digits before the point, else scientific. -/
def plain (decimal : Decimal) : List Char :=
  if -4 < decimal.pointPosition ∧ decimal.pointPosition ≤ 16 then decimal.positional
  else decimal.scientific

/-- The digits of an exponent with its sign. -/
def briefExponent (exponent : Int) : List Char :=
  'e' :: (if exponent < 0 then '-' else '+') :: Nat.toDigits 10 exponent.natAbs

/-- Positional between `0.00001` and sixteen digits before the point, else scientific. -/
def brief (decimal : Decimal) : List Char :=
  if -5 < decimal.pointPosition ∧ decimal.pointPosition ≤ 16 then decimal.positional
  else decimal.mantissa ++ briefExponent (decimal.pointPosition - 1)

/-- Positional between `0.0001` and fifteen digits before the point, else scientific; there is
always a digit behind the point. -/
def tabular (decimal : Decimal) : List Char :=
  if -4 < decimal.pointPosition ∧ decimal.pointPosition ≤ 15 then decimal.positional
  else
    match Nat.toDigits 10 decimal.digits with
    | [digit] => digit :: '.' :: '0' :: exponentPart (decimal.pointPosition - 1)
    | _ => decimal.scientific

end Decimal

namespace FloatParts

/-- A minus sign in front of what is negative. -/
def signed (negative : Bool) (text : List Char) : String :=
  String.ofList (if negative then '-' :: text else text)

/-- The plain text of a double. -/
def plain : FloatParts → String
  | nan => "nan"
  | infinite negative => signed negative "inf".toList
  | zero negative => signed negative "0.0".toList
  | finite negative magnitude => signed negative magnitude.shortest.plain

/-- The brief text of a double that is finite. -/
def brief? : FloatParts → Option String
  | nan => none
  | infinite _ => none
  | zero negative => some (signed negative "0.0".toList)
  | finite negative magnitude => some (signed negative magnitude.shortest.brief)

/-- The text of a double in a column of texts. -/
def tabular : FloatParts → String
  | nan => ""
  | infinite negative => signed negative "Inf".toList
  | zero _ => "0.0"
  | finite negative magnitude => signed negative (magnitude.rounded 15).tabular

/-- The text of a double in an exposition. -/
def exposed : FloatParts → String
  | nan => "NaN"
  | infinite negative => if negative then "-Inf" else "+Inf"
  | finite false magnitude =>
    let decimal := magnitude.shortest
    let position := decimal.pointPosition
    String.ofList <|
      if 6 < position ∧ position ≤ 16 then decimal.scientific else decimal.plain
  | parts => parts.plain

/-- The text of a double with six digits after the point. -/
def sixPlaces : FloatParts → String
  | nan => "nan"
  | infinite negative => signed negative "inf".toList
  | zero negative => signed negative "0.000000".toList
  | finite negative magnitude =>
    let millionths := (Ratio.scale magnitude.toRatio 10 6).roundToEven
    let digits := Nat.toDigits 10 millionths
    let padded := List.replicate (7 - digits.length) '0' ++ digits
    let whole := padded.length - 6
    signed negative (padded.take whole ++ '.' :: padded.drop whole)

end FloatParts

end FleetGate
