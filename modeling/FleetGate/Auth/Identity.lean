import FleetGate.Auth.Failure
import FleetGate.Principal.Words

/-!
# Identities

The identity that verified claims establish for one kind of principal: the token must say that it
is of this kind and hold the identifier that goes with it. The account claim is passed on
whatever it is.
-/

namespace FleetGate

/-- Who a token says its bearer is. -/
structure Identity where
  identifier : Text
  kind : PrincipalKind
  account : Json

namespace Identity

/-- The identity in claims for the kind that is expected. -/
def ofClaims (claims : Entries Json) (kind : PrincipalKind) :
    Except AuthFailure Identity :=
  match Entries.find "type" claims with
  | some (.string tokenType) =>
    if tokenType = Vocabulary.text kind then
      match Entries.find (Text.ofString kind.identifierClaim) claims with
      | some (.string identifier) =>
        .ok ⟨identifier, kind, (Entries.find "account" claims).getD .null⟩
      | _ =>
        let name := Text.ofString kind.identifierClaim
        .error (.withMessage .missingIdentifier ("missing " ++ name ++ " in token")
          ("Missing " ++ name ++ " in token"))
    else .error (.of .wrongTokenKind "invalid token type")
  | _ => .error (.of .wrongTokenKind "invalid token type")

end Identity

end FleetGate
