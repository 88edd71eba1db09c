import FleetGate.Bytes.Utf8

/-!
# Percent escapes

Inside a URL a byte may stand as a percent sign with two hexadecimal digits. `Percent.encode`
writes the UTF-8 bytes of a text in this way, except for characters that stand for themselves, and
`Percent.decode` reads such a text back. Bytes that are not UTF-8 come back as replacement
characters.
-/

namespace FleetGate

namespace Percent

/-- A hexadecimal digit in upper case. -/
def hexDigit (number : Nat) : Char :=
  (Nat.digitChar number).toUpper

/-- A byte, as itself if it is a plain ASCII character and as an escape otherwise. -/
def encodeByte (isPlain : Char → Bool) (byte : UInt8) : List Char :=
  let char := Char.ofNat byte.toNat
  if byte < 128 && isPlain char then [char]
  else ['%', hexDigit (byte.toNat / 16), hexDigit (byte.toNat % 16)]

/-- A text in ASCII: plain characters as they are, all others by the escapes of their bytes. -/
def encode (isPlain : Char → Bool) (text : Text) : Except Bytes.EncodeFault Text :=
  match Bytes.ofText text with
  | .ok bytes => .ok ((bytes.flatMap (encodeByte isPlain)).map .scalar)
  | .error fault => .error fault

/-- Letters, digits and the marks that never need an escape. -/
def isUnreserved (char : Char) : Bool :=
  char.isAlphanum || char == '_' || char == '.' || char == '-' || char == '~'

/-- The byte that two hexadecimal digits spell. -/
def byte? (high low : CodePoint) : Option UInt8 :=
  match high.hexDigit?, low.hexDigit? with
  | some high, some low => some (UInt8.ofNat (16 * high + low))
  | _, _ => none

/-- The bytes of an ASCII text with its escapes replaced. -/
def bytesOf : Text → Bytes
  | point :: high :: low :: rest =>
    match point.is '%', byte? high low with
    | true, some byte => byte :: bytesOf rest
    | _, _ => UInt8.ofNat point.value :: bytesOf (high :: low :: rest)
  | short => short.map fun point => UInt8.ofNat point.value

/-- The characters that the bytes of an ASCII text spell. -/
def decodeAscii (text : Text) : Text :=
  (Bytes.readReplacing (bytesOf text)).map .scalar

/-- Replaces the escapes run by run; `run` holds the ASCII characters read last, in reverse. -/
def decodeFrom (run : Text) : Text → Text
  | [] => decodeAscii run.reverse
  | point :: rest =>
    if point.value < 128 then decodeFrom (point :: run) rest
    else decodeAscii run.reverse ++ point :: decodeFrom [] rest

/-- A text with its escapes replaced. An escape spells a character only together with others next
to it, not across a character beyond ASCII. -/
def decode (text : Text) : Text :=
  decodeFrom [] text

end Percent

end FleetGate
