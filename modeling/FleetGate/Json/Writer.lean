import FleetGate.Json.Basic
import FleetGate.Number.Layout
import FleetGate.Text.Quoted

/-!
# Writing JSON

`Json.write` puts a value on one line. A `Json.Style` says what stands between items and after
names, whether everything beyond ASCII is escaped, and how floats are laid out: bodies are compact
and raw, stored lists are spaced and escaped. `Json.display` is the other form, in which messages
and labels show a value.
-/

namespace FleetGate

namespace Json

/-- A double. The three values that are not finite have names of their own. -/
def writeFloat (number : Float) : Text :=
  match FloatParts.ofFloat number with
  | .nan => "NaN"
  | .infinite negative => if negative then "-Infinity" else "Infinity"
  | parts => parts.plain

/-- A double as briefly as possible. The values that are not finite are null. -/
def writeBriefFloat (number : Float) : Text :=
  (FloatParts.ofFloat number).brief?.getD "null"

/-- The choices that a JSON text leaves open. -/
structure Style where
  comma : String
  colon : String
  asciiOnly : Bool
  float : Float → Text

/-- Bodies have no blanks and leave every printable character as it is. -/
def Style.compact : Style := ⟨",", ":", false, writeFloat⟩

/-- The bodies of records are compact with brief floats. -/
def Style.brief : Style := ⟨",", ":", false, writeBriefFloat⟩

/-- Stored values have a blank after each comma and colon and are ASCII. -/
def Style.spaced : Style := ⟨", ", ": ", true, writeFloat⟩

/-- A four-digit escape. -/
def escapeUnit (number : Nat) : Text :=
  Text.ofString "\\u" ++ Text.ofHex 4 number

/-- The escape of a number, as a pair of halves when it needs more than four digits. -/
def escapeNumber (number : Nat) : Text :=
  if number < 0x10000 then escapeUnit number
  else
    escapeUnit (0xD800 + (number - 0x10000) / 0x400) ++
      escapeUnit (0xDC00 + (number - 0x10000) % 0x400)

/-- A code point inside a JSON string. -/
def writePoint (asciiOnly : Bool) (point : CodePoint) : Text :=
  if point.is '"' then Text.ofString "\\\""
  else if point.is '\\' then Text.ofString "\\\\"
  else if point.is '\n' then Text.ofString "\\n"
  else if point.is '\r' then Text.ofString "\\r"
  else if point.is '\t' then Text.ofString "\\t"
  else if point.value = 8 then Text.ofString "\\b"
  else if point.value = 12 then Text.ofString "\\f"
  else if point.value < 32 then escapeUnit point.value
  else if asciiOnly && 126 < point.value then escapeNumber point.value
  else [point]

/-- A text between double quotes. -/
def writeString (asciiOnly : Bool) (text : Text) : Text :=
  Text.ofChar '"' ++ text.flatMap (writePoint asciiOnly) ++ Text.ofChar '"'

mutual
/-- A value on one line. -/
def write (style : Style) : Json → Text
  | null => Text.ofString "null"
  | bool true => Text.ofString "true"
  | bool false => Text.ofString "false"
  | int number => Text.ofInt number
  | float number => style.float number
  | string text => writeString style.asciiOnly text
  | array items => Text.ofChar '[' ++ writeItems style items ++ Text.ofChar ']'
  | object fields => Text.ofChar '\x7b' ++ writeFields style fields ++ Text.ofChar '\x7d'

/-- Items with commas between them. -/
def writeItems (style : Style) : List Json → Text
  | [] => []
  | [item] => write style item
  | item :: rest => write style item ++ Text.ofString style.comma ++ writeItems style rest

/-- Fields with commas between them. -/
def writeFields (style : Style) : Entries Json → Text
  | [] => []
  | [(name, value)] =>
    writeString style.asciiOnly name ++ Text.ofString style.colon ++ write style value
  | (name, value) :: rest =>
    writeString style.asciiOnly name ++ Text.ofString style.colon ++ write style value ++
      Text.ofString style.comma ++ writeFields style rest
end

mutual
/-- A value as it is shown inside another one: texts in quotes. -/
def shown : Json → Text
  | null => Text.ofString "None"
  | bool true => Text.ofString "True"
  | bool false => Text.ofString "False"
  | int number => Text.ofInt number
  | float number => Text.ofString (FloatParts.ofFloat number).plain
  | string text => text.quoted
  | array items => Text.ofChar '[' ++ shownItems items ++ Text.ofChar ']'
  | object fields => Text.ofChar '\x7b' ++ shownFields fields ++ Text.ofChar '\x7d'

/-- Items with commas between them. -/
def shownItems : List Json → Text
  | [] => []
  | [item] => shown item
  | item :: rest => shown item ++ Text.ofString ", " ++ shownItems rest

/-- Fields with commas between them. -/
def shownFields : Entries Json → Text
  | [] => []
  | [(name, value)] => name.quoted ++ Text.ofString ": " ++ shown value
  | (name, value) :: rest =>
    name.quoted ++ Text.ofString ": " ++ shown value ++ Text.ofString ", " ++ shownFields rest
end

/-- A value as a label or message shows it: a text stands for itself. -/
def display : Json → Text
  | string text => text
  | value => value.shown

end Json

end FleetGate
