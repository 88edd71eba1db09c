import FleetGate.Text.Digits
import FleetGate.Text.Printable

/-!
# Quoted texts

The form in which a text is shown inside a message: between single quotes, or between double
quotes when it holds a single quote and no double quote. What is not printable is written as an
escape.
-/

namespace FleetGate

namespace CodePoint

/-- A code point as it stands between the given quotes. -/
def quoted (mark : Char) (point : CodePoint) : Text :=
  let number := point.value
  if point.is mark || point.is '\\' then [.scalar '\\', point]
  else if point.is '\n' then Text.ofString "\\n"
  else if point.is '\r' then Text.ofString "\\r"
  else if point.is '\t' then Text.ofString "\\t"
  else if point.isPrintable then [point]
  else if number < 0x100 then Text.ofString "\\x" ++ Text.ofHex 2 number
  else if number < 0x10000 then Text.ofString "\\u" ++ Text.ofHex 4 number
  else Text.ofString "\\U" ++ Text.ofHex 8 number

end CodePoint

namespace Text

/-- The quotes that a text is shown in. -/
def quoteMark (text : Text) : Char :=
  if text.any (·.is '\'') && !text.any (·.is '"') then '"' else '\''

/-- A text as messages show it. -/
def quoted (text : Text) : Text :=
  let mark := text.quoteMark
  ofChar mark ++ text.flatMap (·.quoted mark) ++ ofChar mark

end Text

end FleetGate
