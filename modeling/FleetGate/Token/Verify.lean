import FleetGate.Auth.Credential
import FleetGate.Token.Secret
import FleetGate.Token.Window

/-!
# Verifying a token

The tag is checked first, so that the clock only matters for tokens that were signed with one of
our keys. The payload is then read twice: once in whatever Unicode encoding it seems to have, to
see whether it is an object at all, and once strictly as UTF-8 for the claims themselves. For the
second reading the token is taken apart and checked again.
-/

namespace FleetGate

namespace Token

/-- The payload of a token whose tag holds under one of the keys of a secret. -/
def verifiedPayload (secret token : Text) : Except Raised Bytes := do
  let parts ← SignedToken.read token
  let algorithm ← parts.algorithm
  match Secret.candidates secret with
  | .error fault => .error (.fault fault)
  | .ok candidates =>
    let holds ← Secret.anyVerifies algorithm parts.signed parts.tag candidates
    if holds then .ok parts.payload
    else .error (SignedToken.invalid "Signature verification failed.")

/-- A payload that is no JSON object in any encoding. -/
def checkObject (payload : Bytes) : Except Raised Unit :=
  match Bytes.readGuessed? payload with
  | none => .error (Claims.invalid "invalid token claims")
  | some text =>
    match Json.readWhole .values text with
    | .ok (.object _) => .ok ()
    | .ok _ =>
      .error (.failure (.withMessage .tokenExpiredOrInvalid "invalid token claims"
        "Unable to parse token claims"))
    | .error (.nesting container) =>
      .error (.fault ⟨.recursion, Json.Stop.message text (.nesting container)⟩)
    | .error _ => .error (Claims.invalid "invalid token claims")

/-- The claims of a payload, read strictly. -/
def readClaims (payload : Bytes) : Except Raised (Entries Json) :=
  match Bytes.readUtf8 payload with
  | .error fault => .error (Claims.invalid ("Invalid payload string: " ++ fault.message))
  | .ok chars =>
    let text : Text := chars.map .scalar
    match Json.read .values text with
    | .ok (.object claims) => .ok claims
    | .ok _ => .error (Claims.invalid "Invalid payload string: must be a json object")
    | .error (.nesting container) =>
      .error (.fault ⟨.recursion, Json.Stop.message text (.nesting container)⟩)
    | .error stop => .error (Claims.invalid ("Invalid payload string: " ++ stop.message text))

/-- The claims of a token. The token is taken apart and its tag checked once more for them, and
what fails this time is a failure of the claims. -/
def claimsOf (secret token : Text) : Except Raised (Entries Json) :=
  match verifiedPayload secret token with
  | .error (.failure failure) =>
    .error (.failure (.make .tokenExpiredOrInvalid failure.detail .null))
  | .error raised => .error raised
  | .ok payload => readClaims payload

/-- The claims of a token that is signed with a key of the secret and valid now. -/
def verify (now : Int) (secret token : Text) : Except Raised (Entries Json) := do
  let payload ← verifiedPayload secret token
  checkObject payload
  let claims ← claimsOf secret token
  Claims.check now claims
  return claims

/-- The claims of a credential. -/
def decode (now : Int) (secret : Text) (authorization : Option Text) :
    Except Raised (Entries Json) :=
  match Credential.token authorization with
  | .error failure => .error (.failure failure)
  | .ok token => verify now secret token

end Token

end FleetGate
