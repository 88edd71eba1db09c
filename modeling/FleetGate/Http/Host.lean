import FleetGate.Number.Reading

/-!
# Host names

What may stand in the host header of a request: a registered name or an address in brackets,
with a port behind a colon if need be. An address is a version 6 address without a zone, or one of
a future version.
-/

namespace FleetGate

namespace Host

/-- A character of a registered name that needs no escape. -/
def isNamePoint (point : CodePoint) : Bool :=
  match point with
  | .scalar char => char.isAlphanum || "-._~!$&'()*+,;=".toList.contains char
  | .surrogate _ => false

/-- A registered name, in which a percent sign opens an escape of two hexadecimal digits. -/
def isName : Text → Bool
  | [] => true
  | point :: rest =>
    if point.is '%' then
      match rest with
      | high :: low :: rest => high.hexDigit?.isSome && low.hexDigit?.isSome && isName rest
      | _ => false
    else isNamePoint point && isName rest

/-- One of the four numbers of a version 4 address. -/
def isOctet (text : Text) : Bool :=
  let (digits, rest) := Text.spanDigits text
  rest.isEmpty && !digits.isEmpty && natOfDigits digits < 256 &&
    (digits.length == 1 || digits.head? != some 0)

/-- A version 4 address. -/
def isVersion4 (text : Text) : Bool :=
  let octets := Text.splitOn '.' text
  octets.length == 4 && octets.all isOctet

/-- One of the eight groups of a version 6 address. -/
def isGroup (text : Text) : Bool :=
  !text.isEmpty && text.length ≤ 4 && text.all (·.hexDigit?.isSome)

/-- The groups of an address. A version 4 address at the end counts as two. -/
def groups (address : Text) : List Text :=
  let parts := Text.splitOn ':' address
  match parts.getLast? with
  | some last =>
    let zero := Text.ofChar '0'
    if isVersion4 last then parts.dropLast ++ [zero, zero] else parts
  | none => parts

/-- Groups on one side of the gap; where there are none, a single empty one stands for them. -/
def side (groups : List Text) : List Text :=
  if groups = [[]] then [] else groups

/-- The places at which nothing stands between two colons. -/
def gaps (groups : List Text) : List Nat :=
  (List.range groups.length).filter fun place =>
    0 < place && place + 1 < groups.length && groups[place]? == some []

/-- A version 6 address: eight groups, of which a gap may leave out one or more. -/
def isVersion6 (address : Text) : Bool :=
  let groups := groups address
  match gaps groups with
  | [] => groups.length == 8 && groups.all isGroup
  | [gap] =>
    let given := side (groups.take gap) ++ side (groups.drop (gap + 1))
    given.length < 8 && given.all isGroup
  | _ => false

/-- An address of a future version: a small letter, a version, a point and the address. -/
def isFuture (address : Text) : Bool :=
  match address with
  | [] => false
  | letter :: rest =>
    let version := rest.takeWhile (·.hexDigit?.isSome)
    match rest.drop version.length with
    | [] => false
    | mark :: behind =>
      letter.is 'v' && !version.isEmpty && mark.is '.' && !behind.isEmpty &&
        behind.all fun point => isNamePoint point || point.is ':'

/-- A port with its colon, or nothing. -/
def isPort : Text → Bool
  | [] => true
  | colon :: rest =>
    let (digits, behind) := Text.spanDigits rest
    colon.is ':' && behind.isEmpty && natOfDigits digits ≤ 65535

/-- A text names a host, perhaps with a port. -/
def isValid (text : Text) : Bool :=
  match text with
  | [] => false
  | point :: rest =>
    if point.is '[' then
      let address := rest.takeWhile fun point => !point.is ']'
      let behind := rest.drop address.length
      !behind.isEmpty && (isVersion6 address || isFuture address) && isPort (behind.drop 1)
    else
      let name := text.takeWhile fun point => !point.is ':'
      !name.isEmpty && isName name && isPort (text.drop name.length)

end Host

end FleetGate
