import FleetGate.Bytes.Utf8

/-!
# Guessing the encoding of a JSON text

A JSON text may come in UTF-8, UTF-16 or UTF-32. A byte-order mark decides; without one the zero
bytes among the first four do, because a JSON text starts with two ASCII characters. The text is
then read with halves of surrogate pairs let through.
-/

namespace FleetGate

namespace Bytes

/-- The encodings of a JSON text. A mark says that the first code point is to be dropped. -/
inductive Encoding where
  | utf8 (mark : Bool)
  | utf16 (bigEndian mark : Bool)
  | utf32 (bigEndian mark : Bool)
  deriving DecidableEq

/-- The byte-order marks. Those of UTF-32 come first, because one of UTF-16 starts like one. -/
def marks : List (Bytes × Encoding) :=
  [([0x00, 0x00, 0xFE, 0xFF], .utf32 true true), ([0xFF, 0xFE, 0x00, 0x00], .utf32 false true),
    ([0xFE, 0xFF], .utf16 true true), ([0xFF, 0xFE], .utf16 false true),
    ([0xEF, 0xBB, 0xBF], .utf8 true)]

/-- The encoding of bytes without a mark. -/
def guessUnmarked (bytes : Bytes) : Encoding :=
  match bytes with
  | first :: second :: third :: fourth :: _ =>
    if first = 0 then
      if second = 0 then .utf32 true false else .utf16 true false
    else if second = 0 then
      if third = 0 ∧ fourth = 0 then .utf32 false false else .utf16 false false
    else .utf8 false
  | [first, second] =>
    if first = 0 then .utf16 true false
    else if second = 0 then .utf16 false false
    else .utf8 false
  | _ => .utf8 false

/-- The encoding that the first bytes speak for. -/
def guessEncoding (bytes : Bytes) : Encoding :=
  match marks.find? (·.1.isPrefixOf bytes) with
  | some (_, encoding) => encoding
  | none => guessUnmarked bytes

/-- The numbers that pairs of bytes spell. -/
def units16? (bigEndian : Bool) : Bytes → Option (List Nat)
  | [] => some []
  | [_] => none
  | first :: second :: rest =>
    (units16? bigEndian rest).map
      ((if bigEndian then first.toNat * 256 + second.toNat else second.toNat * 256 + first.toNat)
        :: ·)

/-- The numbers that groups of four bytes spell. -/
def units32? (bigEndian : Bool) : Bytes → Option (List Nat)
  | [] => some []
  | a :: b :: c :: d :: rest =>
    let spell (w x y z : UInt8) : Nat :=
      ((w.toNat * 256 + x.toNat) * 256 + y.toNat) * 256 + z.toNat
    (units32? bigEndian rest).map ((if bigEndian then spell a b c d else spell d c b a) :: ·)
  | _ => none

/-- Joins a high half with a low half right after it. -/
def joinUnits : List Nat → List Nat
  | [] => []
  | [unit] => [unit]
  | high :: low :: rest =>
    if CodePoint.isHighHalf high && CodePoint.isLowHalf low then
      CodePoint.joinHalves high low :: joinUnits rest
    else high :: joinUnits (low :: rest)

/-- The text of bytes in an encoding. -/
def readEncoded? (bytes : Bytes) : Encoding → Option Text
  | .utf8 mark => (readLooseUtf8? bytes).map fun text => if mark then text.tail else text
  | .utf16 bigEndian mark => do
    let text ← (joinUnits (← units16? bigEndian bytes)).mapM CodePoint.ofNat?
    return if mark then text.tail else text
  | .utf32 bigEndian mark => do
    let text ← (← units32? bigEndian bytes).mapM CodePoint.ofNat?
    return if mark then text.tail else text

/-- The text of bytes whose encoding is guessed. -/
def readGuessed? (bytes : Bytes) : Option Text :=
  readEncoded? bytes (guessEncoding bytes)

end Bytes

end FleetGate
