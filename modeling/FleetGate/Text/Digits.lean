import FleetGate.Text.CodePoint

/-!
# Decimal digits

Unicode has 66 runs of ten consecutive code points that are the decimal digits zero to nine of
some script. `CodePoint.digit?` reads any of them; the ASCII digits are the first run.
-/

namespace FleetGate

namespace CodePoint

/-- The zeros of all runs of decimal digits, in increasing order. -/
def decimalZeros : List Nat := [
  0x30, 0x660, 0x6F0, 0x7C0, 0x966, 0x9E6, 0xA66, 0xAE6, 0xB66, 0xBE6, 0xC66, 0xCE6, 0xD66,
  0xDE6, 0xE50, 0xED0, 0xF20, 0x1040, 0x1090, 0x17E0, 0x1810, 0x1946, 0x19D0, 0x1A80, 0x1A90,
  0x1B50, 0x1BB0, 0x1C40, 0x1C50, 0xA620, 0xA8D0, 0xA900, 0xA9D0, 0xA9F0, 0xAA50, 0xABF0,
  0xFF10, 0x104A0, 0x10D30, 0x11066, 0x110F0, 0x11136, 0x111D0, 0x112F0, 0x11450, 0x114D0,
  0x11650, 0x116C0, 0x11730, 0x118E0, 0x11950, 0x11C50, 0x11D50, 0x11DA0, 0x16A60, 0x16AC0,
  0x16B50, 0x1D7CE, 0x1D7D8, 0x1D7E2, 0x1D7EC, 0x1D7F6, 0x1E140, 0x1E2F0, 0x1E950, 0x1FBF0]

/-- The value of a decimal digit of any script. -/
def digit? (point : CodePoint) : Option Nat :=
  (decimalZeros.find? fun first => first ≤ point.value && point.value < first + 10).map
    (point.value - ·)

/-- The value of an ASCII digit. -/
def asciiDigit? (point : CodePoint) : Option Nat :=
  if 48 ≤ point.value && point.value < 58 then some (point.value - 48) else none

/-- The value of a hexadecimal digit. -/
def hexDigit? (point : CodePoint) : Option Nat :=
  let number := point.value
  if 48 ≤ number && number < 58 then some (number - 48)
  else if 97 ≤ number && number < 103 then some (number - 87)
  else if 65 ≤ number && number < 71 then some (number - 55)
  else none

example : decimalZeros.length = 66 ∧ decimalZeros.Pairwise (· < ·) := by decide

end CodePoint

namespace Text

/-- The lower-case hexadecimal digits of a number, filled up with zeros to a width. -/
def ofHex (width number : Nat) : Text :=
  let digits := Nat.toDigits 16 number
  (List.replicate (width - digits.length) '0' ++ digits).map .scalar

end Text

end FleetGate
