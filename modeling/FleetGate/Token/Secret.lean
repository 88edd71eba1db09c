import FleetGate.Json.Writer
import FleetGate.Token.Segments

/-!
# Secrets and the keys they stand for

A secret is a configured text. Plain words are one key, taken as they are. A text that reads as
JSON stands for more: a key set for its keys, a key object for itself, any other object for its
values, a list for its items. A key is a text or a key object of type `oct`; texts that look like
asymmetric key files are refused.
-/

namespace FleetGate

namespace Secret

/-- The candidates that a value under `keys` holds. -/
def members : Json → Except Fault (List Json)
  | .array items => .ok items
  | .string text => .ok (text.map fun point => .string [point])
  | .object fields => .ok (fields.map fun (name, _) => .string name)
  | other => .error ⟨.wrongType, "'" ++ Text.ofString other.typeName ++ "' object is not iterable"⟩

/-- The key candidates of a secret, in the order in which they are tried. -/
def candidates (secret : Text) : Except Fault (List Json) :=
  match Json.read .texts secret with
  | .error _ => .ok [.string secret]
  | .ok (.object fields) =>
    match Entries.find "keys" fields with
    | some keys => members keys
    | none =>
      if (Entries.find "kty" fields).isSome || fields.isEmpty then .ok [.object fields]
      else .ok (fields.map (·.2))
  | .ok (.array items) => .ok items
  | .ok value => .ok [value]

/-- The labels of key and certificate files. -/
def fileLabels : List String :=
  ["CERTIFICATE", "TRUSTED CERTIFICATE", "PRIVATE KEY", "PUBLIC KEY", "ENCRYPTED PRIVATE KEY",
    "OPENSSH PRIVATE KEY", "DSA PRIVATE KEY", "RSA PRIVATE KEY", "RSA PUBLIC KEY",
    "EC PRIVATE KEY", "DH PARAMETERS", "NEW CERTIFICATE REQUEST", "CERTIFICATE REQUEST",
    "SSH2 PUBLIC KEY", "SSH2 ENCRYPTED PRIVATE KEY", "X509 CRL"]

/-- The first lines of key and certificate files. -/
def fileHeadings : List Text :=
  fileLabels.flatMap fun label =>
    ["-", " "].flatMap fun opening =>
      ["-", " "].map fun closing =>
        Text.ofString ("----" ++ opening ++ "BEGIN " ++ label ++ closing ++ "----")

/-- The names of asymmetric key types for remote shells. -/
def shellKeyTypes : List Text :=
  ["ssh-ed25519", "ssh-rsa", "ssh-dss", "ecdsa-sha2-nistp256", "ecdsa-sha2-nistp384",
    "ecdsa-sha2-nistp521"].map Text.ofString

/-- ASCII white space. -/
def isAsciiSpace (point : CodePoint) : Bool :=
  point.value == 32 || (9 ≤ point.value && point.value ≤ 13)

/-- A blank or a tab. -/
def isGap (point : CodePoint) : Bool :=
  point.is ' ' || point.is '\t'

/-- The text starts with the type of a shell certificate and a second word. -/
def isShellCertificate (text : Text) : Bool :=
  let word := text.takeWhile fun point => !isAsciiSpace point
  let rest := text.drop word.length
  let second := rest.dropWhile isGap
  Text.endsWith word "-cert-v01@openssh.com" && second.length < rest.length &&
    (second.head?.map fun point => !isAsciiSpace point).getD false

/-- The text looks like an asymmetric key or a certificate. -/
def looksAsymmetric (text : Text) : Bool :=
  fileHeadings.any text.contains || shellKeyTypes.any text.contains || isShellCertificate text

/-- The bytes of a key candidate. -/
def keyBytes (candidate : Json) : Except Raised Bytes :=
  match candidate with
  | .string text =>
    match Bytes.encode text with
    | .error fault => .error (.fault fault)
    | .ok bytes =>
      if looksAsymmetric text then
        .error (SignedToken.invalid <|
          "The specified key is an asymmetric key or x509 certificate and should not be used as " ++
            "an HMAC secret.")
      else .ok bytes
  | .object fields =>
    let kind := (Entries.find "kty" fields).getD .null
    if kind.same "oct" then
      match (Entries.find "k" fields).getD .null with
      | .string text =>
        match Bytes.encode text with
        | .error fault => .error (.fault fault)
        | .ok bytes =>
          match Bytes.readBase64 bytes with
          | .ok key => .ok key
          | .error fault => .error (.fault ⟨.base64, fault.message⟩)
      | other =>
        .error (.fault ⟨.missingAttribute,
          "'" ++ Text.ofString other.typeName ++ "' object has no attribute 'encode'"⟩)
    else
      .error (SignedToken.invalid
        ("Incorrect key type. Expected: 'oct', Received: " ++ kind.display))
  | _ => .error (SignedToken.invalid "Expecting a string- or bytes-formatted key.")

/-- One of the candidates is a key under which the tag holds. The first candidate that is no key
ends the search. -/
def anyVerifies (algorithm : Algorithm) (signed tag : Bytes) : List Json → Except Raised Bool
  | [] => .ok false
  | candidate :: rest =>
    match keyBytes candidate with
    | .error raised => .error raised
    | .ok key =>
      if algorithm.mac key signed = tag then .ok true else anyVerifies algorithm signed tag rest

end Secret

end FleetGate
