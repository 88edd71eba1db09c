import FleetGate.Auth.Failure
import FleetGate.Text.Blank

/-!
# Credentials

A credential is the value of an authorization header: the word `Bearer`, white space, a token.
White space may also stand at the two ends.
-/

namespace FleetGate

namespace Credential

/-- The word in front of the token. -/
def scheme : Text := "Bearer"

/-- The token of a header value. -/
def token (authorization : Option Text) : Except AuthFailure Text :=
  match authorization with
  | none | some [] => .error (.of .missingCredential "missing authorization header")
  | some value =>
    match value.splitBlank with
    | [word, token] =>
      if word = scheme then .ok token
      else .error (.of .malformedCredential "invalid authorization format")
    | _ => .error (.of .malformedCredential "invalid authorization format")

end Credential

end FleetGate
