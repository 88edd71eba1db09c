import FleetGate.Json.Basic
import FleetGate.Number.Reading

/-!
# Reading JSON

`Json.read` reads one value with blanks around it. Reading goes from left to right and stops at
the first fault, which carries what was expected and where. Two limits hold: integers of more
than 4300 digits are refused, and so is nesting deeper than the reader has room for, which is
`nestingLimit` unless a reader is given another limit.

The reader works by recursion on the depth that is left. Inside one container it runs through the
items with a bound on their number, which the length of the text provides.
-/

namespace FleetGate

namespace Json

/-- What the reader can find wrong at a place. -/
inductive Flaw where
  | value
  | propertyName
  | colon
  | comma
  | extraData
  | unterminatedString
  | controlCharacter
  | escape
  | unicodeEscape
  | byteOrderMark
  deriving DecidableEq

/-- The words of a message for a flaw. -/
def Flaw.words : Flaw → String
  | value => "Expecting value"
  | propertyName => "Expecting property name enclosed in double quotes"
  | colon => "Expecting ':' delimiter"
  | comma => "Expecting ',' delimiter"
  | extraData => "Extra data"
  | unterminatedString => "Unterminated string starting at"
  | controlCharacter => "Invalid control character at"
  | escape => "Invalid \\escape"
  | unicodeEscape => "Invalid \\uXXXX escape"
  | byteOrderMark => "Unexpected UTF-8 BOM (decode using utf-8-sig)"

/-- The two kinds of container. -/
inductive Container where
  | array
  | object
  deriving DecidableEq

/-- Why reading stopped. A flaw stands in front of `remaining` code points. -/
inductive Stop where
  | flaw (flaw : Flaw) (remaining : Nat)
  | longInteger (digits : Nat)
  | nesting (container : Container)
  deriving DecidableEq

/-- The room for containers inside one another that the readers of the service have. -/
def nestingLimit : Nat := 980

/-- Whether numbers are read as numbers or kept as they are written. -/
inductive NumberMode where
  | values
  | texts
  deriving DecidableEq

/-- White space between the parts of a JSON text. -/
def isSpace (point : CodePoint) : Bool :=
  point.is ' ' || point.is '\t' || point.is '\n' || point.is '\r'

/-- Everything after the leading white space. -/
def skipSpace (text : Text) : Text :=
  text.dropWhile isSpace

/-- What one or more characters of a string literal stand for. -/
inductive Piece where
  | plain (point : CodePoint)
  | escaped (number : Nat)

/-- The character of a one-letter escape. -/
def simpleEscape? (mark : CodePoint) : Option CodePoint :=
  if mark.is '"' || mark.is '\\' || mark.is '/' then some mark
  else if mark.is 'b' then some (.scalar '\x08')
  else if mark.is 'f' then some (.scalar '\x0c')
  else if mark.is 'n' then some (.scalar '\n')
  else if mark.is 'r' then some (.scalar '\r')
  else if mark.is 't' then some (.scalar '\t')
  else none

/-- The number of four hexadecimal digits. -/
def fourHex? (a b c d : CodePoint) : Option Nat := do
  return ((← a.hexDigit?) * 16 + (← b.hexDigit?)) * 256 + (← c.hexDigit?) * 16 + (← d.hexDigit?)

/-- The pieces of a string literal up to its closing quote, and what follows. The opening quote
stood in front of `opening` code points. -/
def readPieces (opening : Nat) : Text → Except Stop (List Piece × Text)
  | [] => .error (.flaw .unterminatedString opening)
  | point :: rest =>
    if point.is '"' then .ok ([], rest)
    else if point.is '\\' then
      match rest with
      | [] => .error (.flaw .unterminatedString opening)
      | mark :: rest =>
        if mark.is 'u' then
          match rest with
          | a :: b :: c :: d :: after =>
            match fourHex? a b c d with
            | some number =>
              if after.isEmpty then .error (.flaw .unicodeEscape (rest.length + 1))
              else
                match readPieces opening after with
                | .ok (pieces, after) => .ok (.escaped number :: pieces, after)
                | .error stop => .error stop
            | none => .error (.flaw .unicodeEscape (rest.length + 1))
          | _ => .error (.flaw .unicodeEscape (rest.length + 1))
        else
          match simpleEscape? mark with
          | some point =>
            match readPieces opening rest with
            | .ok (pieces, after) => .ok (.plain point :: pieces, after)
            | .error stop => .error stop
          | none => .error (.flaw .escape (rest.length + 2))
    else if point.value < 32 then .error (.flaw .controlCharacter (rest.length + 1))
    else
      match readPieces opening rest with
      | .ok (pieces, after) => .ok (.plain point :: pieces, after)
      | .error stop => .error stop

/-- Joins an escaped high half with an escaped low half right after it. -/
def joinPieces : List Piece → Text
  | [] => []
  | .plain point :: rest => point :: joinPieces rest
  | [.escaped number] => ((CodePoint.ofNat? number).toList)
  | .escaped high :: .plain point :: rest =>
    (CodePoint.ofNat? high).toList ++ point :: joinPieces rest
  | .escaped high :: .escaped low :: rest =>
    if CodePoint.isHighHalf high && CodePoint.isLowHalf low then
      (CodePoint.ofNat? (CodePoint.joinHalves high low)).toList ++ joinPieces rest
    else (CodePoint.ofNat? high).toList ++ joinPieces (.escaped low :: rest)

/-- A string after its opening quote. -/
def readString (text : Text) : Except Stop (Text × Text) :=
  match readPieces (text.length + 1) text with
  | .ok (pieces, rest) => .ok (joinPieces pieces, rest)
  | .error stop => .error stop

/-- The ASCII digits at the start of a text and what follows them. -/
def spanDigits : Text → Text × Text
  | [] => ([], [])
  | point :: rest =>
    if point.asciiDigit?.isSome then
      let (digits, after) := spanDigits rest
      (point :: digits, after)
    else ([], point :: rest)

/-- The digits of a whole number: a single zero, or digits that do not start with one. -/
def spanWhole (text : Text) : Text × Text :=
  match text with
  | point :: rest => if point.is '0' then ([point], rest) else spanDigits text
  | [] => ([], [])

/-- A point with at least one digit after it. -/
def spanFraction (text : Text) : Text × Text :=
  match text with
  | point :: rest =>
    if point.is '.' then
      match spanDigits rest with
      | ([], _) => ([], text)
      | (digits, after) => (digits, after)
    else ([], text)
  | [] => ([], [])

/-- The letter, an optional sign and at least one digit of an exponent: whether it is negative,
its digits, the text it was written with and what follows. -/
def spanExponent (text : Text) : Bool × Text × Text × Text :=
  match text with
  | point :: rest =>
    if point.is 'e' || point.is 'E' then
      let (negative, after) := Text.takeSign rest
      match spanDigits after with
      | ([], _) => (false, [], [], text)
      | (digits, last) => (negative, digits, text.take (text.length - last.length), last)
    else (false, [], [], text)
  | [] => (false, [], [], [])

/-- The values of digits. -/
def digitValues (digits : Text) : List Nat :=
  digits.filterMap (·.asciiDigit?)

/-- A number after its sign; `start` is the text from the sign on. -/
def readNumber (mode : NumberMode) (negative : Bool) (start text : Text) :
    Except Stop (Json × Text) :=
  let (whole, rest) := spanWhole text
  if whole.isEmpty then .error (.flaw .value start.length)
  else
    let (fraction, rest) := spanFraction rest
    let (exponentNegative, exponent, exponentText, rest) := spanExponent rest
    match mode with
    | .texts =>
      let sign : Text := if negative then "-" else ""
      let point : Text := if fraction.isEmpty then "" else "."
      .ok (.string (sign ++ whole ++ point ++ fraction ++ exponentText), rest)
    | .values =>
      if fraction.isEmpty && exponent.isEmpty then
        if integerDigitLimit < whole.length then .error (.longInteger whole.length)
        else
          let magnitude : Int := natOfDigits (digitValues whole)
          .ok (.int (if negative then -magnitude else magnitude), rest)
      else
        let magnitude : Int := natOfDigits (digitValues exponent)
        let decimal : Decimal :=
          ⟨natOfDigits (digitValues (whole ++ fraction)),
            (if exponentNegative then -magnitude else magnitude) - fraction.length⟩
        .ok (.float (decimal.toFloat negative), rest)

/-- What follows a word at the start of a text. -/
def afterWord? (word : String) (text : Text) : Option Text :=
  let points := Text.ofString word
  if points.isPrefixOf text then some (text.drop points.length) else none

/-- The words that stand for a value. -/
def words : List (String × Json) :=
  [("null", .null), ("true", .bool true), ("false", .bool false), ("NaN", .float (0.0 / 0.0)),
    ("Infinity", .float (1.0 / 0.0)), ("-Infinity", .float (-1.0 / 0.0))]

/-- A word or a number. -/
def readScalar (mode : NumberMode) (text : Text) : Except Stop (Json × Text) :=
  match words.findSome? fun (word, value) => (afterWord? word text).map (value, ·) with
  | some result => .ok result
  | none =>
    match text with
    | [] => .error (.flaw .value 0)
    | point :: rest =>
      if point.is '-' then readNumber mode true text rest
      else readNumber mode false text text

/-- The items of an array from the first one on, up to and with its closing bracket. -/
def readItems (item : Text → Except Stop (Json × Text)) :
    (bound : Nat) → Text → Except Stop (List Json × Text)
  | 0, text => .error (.flaw .value text.length)
  | bound + 1, text =>
    match item text with
    | .error stop => .error stop
    | .ok (value, rest) =>
      match skipSpace rest with
      | [] => .error (.flaw .comma 0)
      | point :: rest =>
        if point.is ']' then .ok ([value], rest)
        else if point.is ',' then
          match readItems item bound (skipSpace rest) with
          | .ok (values, rest) => .ok (value :: values, rest)
          | .error stop => .error stop
        else .error (.flaw .comma (rest.length + 1))

/-- The fields of an object from the first name on, up to and with its closing brace. -/
def readFields (item : Text → Except Stop (Json × Text)) :
    (bound : Nat) → Text → Except Stop (Entries Json × Text)
  | 0, text => .error (.flaw .value text.length)
  | _ + 1, [] => .error (.flaw .propertyName 0)
  | bound + 1, quote :: rest =>
    if !quote.is '"' then .error (.flaw .propertyName (rest.length + 1))
    else
      match readString rest with
      | .error stop => .error stop
      | .ok (name, rest) =>
        match skipSpace rest with
        | [] => .error (.flaw .colon 0)
        | colon :: rest =>
          if !colon.is ':' then .error (.flaw .colon (rest.length + 1))
          else
            match item (skipSpace rest) with
            | .error stop => .error stop
            | .ok (value, rest) =>
              match skipSpace rest with
              | [] => .error (.flaw .comma 0)
              | point :: rest =>
                if point.is '\x7d' then .ok ([(name, value)], rest)
                else if point.is ',' then
                  match readFields item bound (skipSpace rest) with
                  | .ok (fields, rest) => .ok ((name, value) :: fields, rest)
                  | .error stop => .error stop
                else .error (.flaw .comma (rest.length + 1))

/-- A value at the start of a text, inside at most `depth` more containers. -/
def readValue (mode : NumberMode) (bound : Nat) : (depth : Nat) → Text → Except Stop (Json × Text)
  | _, [] => .error (.flaw .value 0)
  | 0, point :: rest =>
    if point.is '"' then (readString rest).map fun (text, rest) => (.string text, rest)
    else if point.is '[' then .error (.nesting .array)
    else if point.is '\x7b' then .error (.nesting .object)
    else readScalar mode (point :: rest)
  | depth + 1, point :: rest =>
    if point.is '"' then (readString rest).map fun (text, rest) => (.string text, rest)
    else if point.is '[' then
      match skipSpace rest with
      | [] => .error (.flaw .value 0)
      | next :: after =>
        if next.is ']' then .ok (.array [], after)
        else
          (readItems (readValue mode bound depth) bound (next :: after)).map
            fun (items, rest) => (.array items, rest)
    else if point.is '\x7b' then
      match skipSpace rest with
      | [] => .error (.flaw .propertyName 0)
      | next :: after =>
        if next.is '\x7d' then .ok (.object [], after)
        else
          (readFields (readValue mode bound depth) bound (next :: after)).map
            fun (fields, rest) => (.object (Entries.putAll [] fields), rest)
    else readScalar mode (point :: rest)

/-- The value of a whole text, in which so many containers may stand inside one another. -/
def readWhole (mode : NumberMode) (text : Text) (limit : Nat := nestingLimit) :
    Except Stop Json :=
  match readValue mode text.length limit (skipSpace text) with
  | .error stop => .error stop
  | .ok (value, rest) =>
    match skipSpace rest with
    | [] => .ok value
    | point :: rest => .error (.flaw .extraData (point :: rest).length)

/-- The value of a whole text, which must not start with a byte-order mark. -/
def read (mode : NumberMode) (text : Text) (limit : Nat := nestingLimit) : Except Stop Json :=
  match text with
  | point :: rest =>
    if point.value = 0xFEFF then .error (.flaw .byteOrderMark (rest.length + 1))
    else readWhole mode text limit
  | [] => readWhole mode text limit

/-- The place in front of the last `remaining` code points: line, column and offset. -/
def placeOf (text : Text) (remaining : Nat) : Nat × Nat × Nat :=
  let offset := text.length - remaining
  let before := text.take offset
  let line := before.countP (·.is '\n') + 1
  let column := (before.reverse.takeWhile fun point => !point.is '\n').length + 1
  (line, column, offset)

/-- The message for a stop while reading a text. -/
def Stop.message (text : Text) : Stop → Text
  | flaw found remaining =>
    let (line, column, offset) := placeOf text remaining
    Text.ofString found.words ++ ": line " ++ Text.ofNat line ++ " column " ++ Text.ofNat column ++
      " (char " ++ Text.ofNat offset ++ ")"
  | longInteger digits =>
    "Exceeds the limit (4300 digits) for integer string conversion: value has " ++
      Text.ofNat digits ++ " digits; use sys.set_int_max_str_digits() to increase the limit"
  | nesting container =>
    "maximum recursion depth exceeded while decoding a JSON " ++
      (match container with
        | .array => Text.ofString "array"
        | .object => "object") ++ " from a unicode string"

end Json

end FleetGate
