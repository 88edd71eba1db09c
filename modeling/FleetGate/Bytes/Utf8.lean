import FleetGate.Text.CodePoint
import FleetGate.Text.Digits

/-!
# UTF-8

`Bytes.ofText` writes a text in UTF-8. `Bytes.readUtf8` reads it back strictly and says of the
first fault where it stands and what is wrong with it. `Bytes.readLooseUtf8?` also lets three
bytes through that spell half of a surrogate pair, and `Bytes.readReplacing` puts the replacement
character in the place of every fault.
-/

namespace FleetGate

/-- A sequence of bytes. -/
abbrev Bytes := List UInt8

namespace CodePoint

/-- The bytes of a number below `0x110000`, by the length its size calls for. -/
def utf8OfNat (number : Nat) : Bytes :=
  let tail (unit : Nat) : UInt8 := UInt8.ofNat (0x80 + number / unit % 0x40)
  if number < 0x80 then [UInt8.ofNat number]
  else if number < 0x800 then [UInt8.ofNat (0xC0 + number / 0x40), tail 1]
  else if number < 0x10000 then [UInt8.ofNat (0xE0 + number / 0x1000), tail 0x40, tail 1]
  else [UInt8.ofNat (0xF0 + number / 0x40000), tail 0x1000, tail 0x40, tail 1]

end CodePoint

namespace Bytes

/-- The UTF-8 form of characters. -/
def ofChars (chars : List Char) : Bytes :=
  chars.flatMap fun char => CodePoint.utf8OfNat char.toNat

/-- The UTF-8 form of a string. -/
def ofString (string : String) : Bytes :=
  ofChars string.toList

/-- The lone halves at one place of a text, for which there are no bytes. -/
structure EncodeFault where
  half : Nat
  first : Nat
  length : Nat
  deriving DecidableEq

/-- The message of a fault names the half if it is one, and the span otherwise. -/
def EncodeFault.message (fault : EncodeFault) : Text :=
  let place : Text :=
    if fault.length = 1 then
      "character '\\u" ++ Text.ofHex 4 fault.half ++ "' in position " ++ Text.ofNat fault.first
    else
      "characters in position " ++ Text.ofNat fault.first ++ "-" ++
        Text.ofNat (fault.first + fault.length - 1)
  "'utf-8' codec can't encode " ++ place ++ ": surrogates not allowed"

/-- The first run of lone halves. -/
def loneHalves (text : Text) : EncodeFault :=
  let before := text.takeWhile (·.toChar?.isSome)
  let halves := (text.drop before.length).takeWhile (·.toChar?.isNone)
  ⟨(halves.head?.map (·.value)).getD 0, before.length, halves.length⟩

/-- The UTF-8 form of a text; a lone half has none. -/
def ofText (text : Text) : Except EncodeFault Bytes :=
  match text.toChars? with
  | some chars => .ok (ofChars chars)
  | none => .error (loneHalves text)

/-- What is wrong at a place that is not UTF-8. -/
inductive Utf8Flaw where
  | start
  | continuation
  | truncated
  deriving DecidableEq

/-- Bytes `first` to `first + length - 1` are not UTF-8; `lead` is the first of them. -/
structure Utf8Fault where
  flaw : Utf8Flaw
  first : Nat
  length : Nat
  lead : UInt8
  deriving DecidableEq

/-- The words of a message for a flaw. -/
def Utf8Flaw.words : Utf8Flaw → String
  | start => "invalid start byte"
  | continuation => "invalid continuation byte"
  | truncated => "unexpected end of data"

/-- The message of a fault names the byte if it is one, and the span otherwise. -/
def Utf8Fault.message (fault : Utf8Fault) : Text :=
  let place : Text :=
    if fault.length = 1 then
      "byte 0x" ++ Text.ofHex 2 fault.lead.toNat ++ " in position " ++ Text.ofNat fault.first
    else
      "bytes in position " ++ Text.ofNat fault.first ++ "-" ++
        Text.ofNat (fault.first + fault.length - 1)
  "'utf-8' codec can't decode " ++ place ++ ": " ++ Text.ofString fault.flaw.words

/-- A byte inside a sequence. -/
def isTail (byte : UInt8) : Bool :=
  0x80 ≤ byte && byte < 0xC0

/-- The second byte may follow the lead: no overlong form, no half of a pair, nothing too large. -/
def maySecond (lead second : UInt8) : Bool :=
  isTail second &&
    (lead != 0xE0 || 0xA0 ≤ second) && (lead != 0xED || second < 0xA0) &&
    (lead != 0xF0 || 0x90 ≤ second) && (lead != 0xF4 || second < 0x90)

/-- The number of bytes that a lead byte opens. -/
def sequenceLength (lead : UInt8) : Nat :=
  if lead < 0x80 then 1
  else if 0xC2 ≤ lead && lead < 0xE0 then 2
  else if 0xE0 ≤ lead && lead < 0xF0 then 3
  else if 0xF0 ≤ lead && lead < 0xF5 then 4
  else 0

/-- The number that the payload bits of a sequence spell. -/
def sequenceValue : (lead : UInt8) → Bytes → Nat
  | lead, [] => lead.toNat
  | lead, tails =>
    tails.foldl (fun total tail => total * 64 + tail.toNat % 64)
      (lead.toNat % Nat.pow 2 (6 - tails.length))

/-- What stands at the start of a nonempty byte sequence: the number and length of a character, or
a flaw and the number of bytes that it covers. -/
def sequenceAt (lead : UInt8) (rest : Bytes) : Except (Utf8Flaw × Nat) (Nat × Nat) :=
  match sequenceLength lead, rest with
  | 1, _ => .ok (lead.toNat, 1)
  | 0, _ => .error (.start, 1)
  | _, [] => .error (.truncated, 1)
  | 2, second :: _ =>
    if isTail second then .ok (sequenceValue lead [second], 2) else .error (.continuation, 1)
  | 3, second :: rest =>
    if !maySecond lead second then .error (.continuation, 1)
    else
      match rest with
      | [] => .error (.truncated, 2)
      | third :: _ =>
        if isTail third then .ok (sequenceValue lead [second, third], 3)
        else .error (.continuation, 2)
  | _, second :: rest =>
    if !maySecond lead second then .error (.continuation, 1)
    else
      match rest with
      | [] => .error (.truncated, 2)
      | third :: rest =>
        if !isTail third then .error (.continuation, 2)
        else
          match rest with
          | [] => .error (.truncated, 3)
          | fourth :: _ =>
            if isTail fourth then .ok (sequenceValue lead [second, third, fourth], 4)
            else .error (.continuation, 3)

/-- Reads sequences while `skip` counts the bytes that belong to the last one. -/
def readUtf8From (position : Nat) : (skip : Nat) → Bytes → Except Utf8Fault (List Char)
  | _, [] => .ok []
  | skip + 1, _ :: rest => readUtf8From (position + 1) skip rest
  | 0, lead :: rest =>
    match sequenceAt lead rest with
    | .ok (number, length) =>
      (readUtf8From (position + 1) (length - 1) rest).map (Char.ofNat number :: ·)
    | .error (flaw, length) => .error ⟨flaw, position, length, lead⟩

/-- The characters of UTF-8 bytes. -/
def readUtf8 (bytes : Bytes) : Except Utf8Fault (List Char) :=
  readUtf8From 0 0 bytes

/-- Reads sequences, and the replacement character for each fault, while `skip` counts the bytes
that belong to the last of them. -/
def readReplacingFrom : (skip : Nat) → Bytes → List Char
  | _, [] => []
  | skip + 1, _ :: rest => readReplacingFrom skip rest
  | 0, lead :: rest =>
    match sequenceAt lead rest with
    | .ok (number, length) => Char.ofNat number :: readReplacingFrom (length - 1) rest
    | .error (_, length) => '\uFFFD' :: readReplacingFrom (length - 1) rest

/-- The characters of bytes, with the replacement character for what is not UTF-8. -/
def readReplacing (bytes : Bytes) : List Char :=
  readReplacingFrom 0 bytes

/-- The half of a surrogate pair that three bytes spell in the manner of UTF-8. -/
def halfAt? : Bytes → Option CodePoint
  | 0xED :: second :: third :: _ =>
    if isTail second && isTail third && 0xA0 ≤ second then
      CodePoint.ofNat? (sequenceValue 0xED [second, third])
    else none
  | _ => none

/-- Reads UTF-8 in which halves of pairs may stand alone. -/
def readLooseUtf8From : (skip : Nat) → Bytes → Option Text
  | _, [] => some []
  | skip + 1, _ :: rest => readLooseUtf8From skip rest
  | 0, lead :: rest =>
    match sequenceAt lead rest with
    | .ok (number, length) =>
      (readLooseUtf8From (length - 1) rest).map (.scalar (Char.ofNat number) :: ·)
    | .error _ =>
      match halfAt? (lead :: rest) with
      | some half => (readLooseUtf8From 2 rest).map (half :: ·)
      | none => none

/-- The text of UTF-8 bytes in which halves of pairs may stand alone. -/
def readLooseUtf8? (bytes : Bytes) : Option Text :=
  readLooseUtf8From 0 bytes

end Bytes

end FleetGate
