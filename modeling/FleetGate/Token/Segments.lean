import FleetGate.Auth.Failure
import FleetGate.Bytes.Base64
import FleetGate.Bytes.Unicode
import FleetGate.Digest.Mac
import FleetGate.Json.Reader

/-!
# Signed tokens

A signed token is three base64 segments with dots between them: a header, which is a JSON object,
a payload, and a tag over the first two segments as they are written.
-/

namespace FleetGate

/-- A token taken apart. -/
structure SignedToken where
  signed : Bytes
  header : Entries Json
  payload : Bytes
  tag : Bytes

/-- A fault of a text is a fault of the service. -/
def Bytes.encode (text : Text) : Except Fault Bytes :=
  match Bytes.ofText text with
  | .ok bytes => .ok bytes
  | .error fault => .error ⟨.encoding, fault.message⟩

namespace SignedToken

/-- What stands before and after the first dot. -/
def splitFirstDot? : Bytes → Option (Bytes × Bytes)
  | [] => none
  | byte :: rest =>
    if byte = 46 then some ([], rest)
    else (splitFirstDot? rest).map fun (before, after) => (byte :: before, after)

/-- What stands before and after the last dot. -/
def splitLastDot? (bytes : Bytes) : Option (Bytes × Bytes) :=
  (splitFirstDot? bytes.reverse).map fun (after, before) => (before.reverse, after.reverse)

/-- A token that cannot be taken apart, or whose tag does not hold. -/
def invalid (detail : Text) : Raised :=
  .failure (.of .signatureInvalid detail)

/-- The object that a header segment holds. -/
def readHeader (bytes : Bytes) : Except Raised (Entries Json) :=
  match Bytes.readUtf8 bytes with
  | .error fault => .error (invalid ("Invalid header string: " ++ fault.message))
  | .ok chars =>
    let text : Text := chars.map .scalar
    match Json.read .values text with
    | .ok (.object fields) => .ok fields
    | .ok _ => .error (invalid "Invalid header string: must be a json object")
    | .error (.nesting container) =>
      .error (.fault ⟨.recursion, Json.Stop.message text (.nesting container)⟩)
    | .error stop => .error (invalid ("Invalid header string: " ++ stop.message text))

/-- The parts that three segments spell: header first, then payload, then tag. The first two are
signed as they are written. -/
def ofSegments (signed headerSegment payloadSegment tagSegment : Bytes) :
    Except Raised SignedToken :=
  match Bytes.readBase64 headerSegment with
  | .error _ => .error (invalid "Not enough segments")
  | .ok headerBytes =>
    match readHeader headerBytes with
    | .error raised => .error raised
    | .ok header =>
      match Bytes.readBase64 payloadSegment with
      | .error _ => .error (invalid "Invalid payload padding")
      | .ok payload =>
        match Bytes.readBase64 tagSegment with
        | .error _ => .error (invalid "Invalid crypto padding")
        | .ok tag => .ok ⟨signed, header, payload, tag⟩

/-- Takes a token apart, at its last dot first. -/
def read (token : Text) : Except Raised SignedToken :=
  match Bytes.encode token with
  | .error fault => .error (.fault fault)
  | .ok bytes =>
    match splitLastDot? bytes with
    | none => .error (invalid "Not enough segments")
    | some (signed, tagSegment) =>
      match splitFirstDot? signed with
      | none => .error (invalid "Not enough segments")
      | some (headerSegment, payloadSegment) =>
        ofSegments signed headerSegment payloadSegment tagSegment

/-- The algorithm that the header names. -/
def algorithm (token : SignedToken) : Except Raised Algorithm :=
  match Entries.find "alg" token.header with
  | none => .error (invalid "No algorithm was specified in the JWS header.")
  | some value =>
    if !value.truthy then
      .error (invalid "No algorithm was specified in the JWS header.")
    else
      match value with
      | .string name =>
        match Algorithm.ofName? name with
        | some algorithm => .ok algorithm
        | none => .error (invalid "The specified alg value is not allowed")
      | _ => .error (invalid "The specified alg value is not allowed")

end SignedToken

end FleetGate
