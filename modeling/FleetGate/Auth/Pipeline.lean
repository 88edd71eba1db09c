import FleetGate.Auth.Identity
import FleetGate.Auth.Store
import FleetGate.Token.Verify

/-!
# Authentication pipelines

A pipeline authenticates requests for one kind of principal. It runs its stages in a fixed order
and stops at the first that fails: take the token out of the header, verify it, read the identity
out of its claims, ask the store, and put the principal into a child of the request's context.
-/

namespace FleetGate

/-- The checks for one kind of principal under one secret. -/
structure Pipeline where
  kind : PrincipalKind
  secret : Text
  stores : Stores

namespace Pipeline

/-- A pipeline needs a secret and a store for its kind. -/
def build (kind : PrincipalKind) (secret : Text) (stores : Stores) : Except Fault Pipeline :=
  if secret.isEmpty then .error ⟨.badValue, "JWT signing secret must not be empty"⟩
  else if !stores.supports kind then
    .error ⟨.badValue, "No principal store registered for " ++ Vocabulary.text kind⟩
  else .ok ⟨kind, secret, stores⟩

/-- What is logged about a user who was let in. -/
def welcome (user : User) : LogLine :=
  let permissions := Text.joinWith ", " (user.permissions.map Vocabulary.text)
  ⟨.info, "User authenticated: id=" ++ user.id ++ " account=" ++ user.account ++ " role=" ++
    Vocabulary.text user.role ++ " fleet=" ++ Vocabulary.text user.fleet ++ " permissions=[" ++
    permissions ++ "] fleet_access=" ++ Vocabulary.text user.fleetAccess ++ " active=" ++
    (Json.bool user.isActive).shown⟩

/-- The lines logged about a principal. -/
def welcomes : Value → List LogLine
  | .principal (.user user) => [welcome user]
  | _ => []

/-- The identity that a credential establishes for a kind, before any store is asked. -/
def identify (kind : PrincipalKind) (secret : Text) (now : Int) (authorization : Option Text) :
    Except Raised Identity :=
  match Token.decode now secret authorization with
  | .error raised => .error raised
  | .ok claims =>
    match Identity.ofClaims claims kind with
    | .ok identity => .ok identity
    | .error failure => .error (.failure failure)

/-- Runs every stage for one request. -/
def run (pipeline : Pipeline) (now : Int) (authorization : Option Text) (base : Context) :
    Traced (Except Raised Context) :=
  match identify pipeline.kind pipeline.secret now authorization with
  | .error raised => ⟨.error raised, [], []⟩
  | .ok identity =>
    let resolved := Resolution.resolve pipeline.stores identity.identifier pipeline.kind
    match resolved.result with
    | .error raised => ⟨.error raised, resolved.calls, resolved.logs⟩
    | .ok principal =>
      ⟨.ok (base.attach principal (.data (.string identity.identifier)) (.data identity.account)),
        resolved.calls, resolved.logs ++ welcomes principal⟩

end Pipeline

end FleetGate
