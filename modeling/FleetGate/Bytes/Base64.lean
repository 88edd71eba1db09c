import FleetGate.Bytes.Utf8

/-!
# Base64

`Bytes.toBase64Url` writes bytes in the URL-safe alphabet without padding. The reader is lenient:
it takes both alphabets, skips every foreign character, ignores padding that comes too early and
stops at padding that completes a group. Only a group left open at the end is a fault.
-/

namespace FleetGate

namespace Bytes

/-- The character of six bits in the URL-safe alphabet. -/
def sextetChar (sextet : Nat) : Char :=
  if sextet < 26 then Char.ofNat (65 + sextet)
  else if sextet < 52 then Char.ofNat (71 + sextet)
  else if sextet < 62 then Char.ofNat (sextet - 4)
  else if sextet = 62 then '-'
  else '_'

/-- The six bits of a character in either alphabet. -/
def sextet? (byte : UInt8) : Option Nat :=
  let number := byte.toNat
  if 65 ≤ number && number ≤ 90 then some (number - 65)
  else if 97 ≤ number && number ≤ 122 then some (number - 71)
  else if 48 ≤ number && number ≤ 57 then some (number + 4)
  else if number = 43 || number = 45 then some 62
  else if number = 47 || number = 95 then some 63
  else none

/-- Bytes in the URL-safe alphabet, without padding. -/
def toBase64Url : Bytes → List Char
  | [] => []
  | [a] => [sextetChar (a.toNat / 4), sextetChar (a.toNat % 4 * 16)]
  | [a, b] =>
    [sextetChar (a.toNat / 4), sextetChar (a.toNat % 4 * 16 + b.toNat / 16),
      sextetChar (b.toNat % 16 * 4)]
  | a :: b :: c :: rest =>
    sextetChar (a.toNat / 4) :: sextetChar (a.toNat % 4 * 16 + b.toNat / 16) ::
      sextetChar (b.toNat % 16 * 4 + c.toNat / 64) :: sextetChar (c.toNat % 64) ::
      toBase64Url rest

/-- How far a group of four characters has come, with the bits that wait for more. -/
inductive Group where
  | empty
  | one (left : Nat)
  | two (left pads : Nat)
  | three (left : Nat)

/-- What is left over when a text ends inside a group. -/
inductive Base64Fault where
  | strayCharacter (characters : Nat)
  | openGroup
  deriving DecidableEq

/-- The message of a fault. -/
def Base64Fault.message : Base64Fault → Text
  | strayCharacter characters =>
    "Invalid base64-encoded string: number of data characters (" ++ Text.ofNat characters ++
      ") cannot be 1 more than a multiple of 4"
  | openGroup => "Incorrect padding"

/-- Reads the rest of a text from the middle of a group, after `written` bytes. -/
def readGroups (written : Nat) : Group → Bytes → Except Base64Fault Bytes
  | .empty, [] => .ok []
  | .one _, [] => .error (.strayCharacter (written / 3 * 4 + 1))
  | _, [] => .error .openGroup
  | group, byte :: rest =>
    if byte = 61 then
      match group with
      | .two left pads =>
        if pads + 1 < 2 then readGroups written (.two left (pads + 1)) rest else .ok []
      | .three _ => .ok []
      | group => readGroups written group rest
    else
      match sextet? byte with
      | none => readGroups written group rest
      | some sextet =>
        match group with
        | .empty => readGroups written (.one sextet) rest
        | .one left =>
          (readGroups (written + 1) (.two (sextet % 16) 0) rest).map
            (UInt8.ofNat (left * 4 + sextet / 16) :: ·)
        | .two left _ =>
          (readGroups (written + 1) (.three (sextet % 4)) rest).map
            (UInt8.ofNat (left * 16 + sextet / 4) :: ·)
        | .three left =>
          (readGroups (written + 1) .empty rest).map (UInt8.ofNat (left * 64 + sextet) :: ·)

/-- Fills a text up to a multiple of four characters with padding. -/
def padded (bytes : Bytes) : Bytes :=
  bytes ++ List.replicate ((4 - bytes.length % 4) % 4) 61

/-- The bytes that a text spells in base64, after padding it. -/
def readBase64 (bytes : Bytes) : Except Base64Fault Bytes :=
  readGroups 0 .empty (padded bytes)

end Bytes

end FleetGate
