import FleetGate.Text.CodePoint

/-!
# White space

The white space of Unicode together with the four information separators U+001C to U+001F.
`splitBlank` cuts a text into its maximal runs of other code points.
-/

namespace FleetGate

namespace CodePoint

/-- White space in the wide sense: every Unicode space and the information separators. -/
def isBlank (point : CodePoint) : Bool :=
  let number := point.value
  (9 ≤ number && number ≤ 13) || (28 ≤ number && number ≤ 32) || number == 0x85 ||
    number == 0xA0 || number == 0x1680 || (0x2000 ≤ number && number ≤ 0x200A) ||
    number == 0x2028 || number == 0x2029 || number == 0x202F || number == 0x205F ||
    number == 0x3000

/-- White space that may stand around a number: every blank but the information separators. -/
def isSpace (point : CodePoint) : Bool :=
  point.isBlank && !(28 ≤ point.value && point.value ≤ 31)

end CodePoint

namespace Text

/-- Everything after the leading blanks. -/
def trimStart (text : Text) : Text :=
  text.dropWhile (·.isBlank)

/-- Everything before the trailing blanks. -/
def trimEnd (text : Text) : Text :=
  (text.reverse.dropWhile (·.isBlank)).reverse

/-- A text without the blanks at its two ends. -/
def trim (text : Text) : Text :=
  text.trimStart.trimEnd

/-- A text without the white space around the number in it. -/
def trimSpace (text : Text) : Text :=
  ((text.dropWhile (·.isSpace)).reverse.dropWhile (·.isSpace)).reverse

/-- The maximal runs of code points that are not blank, in order. -/
def splitBlank : Text → List Text
  | [] => []
  | point :: rest =>
    if point.isBlank then splitBlank rest
    else
      match rest with
      | [] => [[point]]
      | next :: _ =>
        if next.isBlank then [point] :: splitBlank rest
        else
          match splitBlank rest with
          | [] => [[point]]
          | word :: words => (point :: word) :: words

end Text

end FleetGate
