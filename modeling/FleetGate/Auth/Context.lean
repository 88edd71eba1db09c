import FleetGate.Auth.Failure
import FleetGate.Principal.Basic

/-!
# Request contexts

A context is a bag of named values that travels with one request. It never changes; adding values
makes a child. Authentication adds three values: the principal, its identifier and the account
claim.
-/

namespace FleetGate

/-- Two principals agree in all fields, timestamps as moments. -/
def Principal.same : Principal → Principal → Bool
  | driver left, driver right =>
    left.createdAt.same right.createdAt && left.updatedAt.same right.updatedAt &&
      decide (left = { right with createdAt := left.createdAt, updatedAt := left.updatedAt })
  | user left, user right =>
    left.createdAt.same right.createdAt && left.updatedAt.same right.updatedAt &&
      decide (left = { right with createdAt := left.createdAt, updatedAt := left.updatedAt })
  | _, _ => false

/-- A value in a context: plain data or a principal. -/
inductive Value where
  | data (json : Json)
  | principal (principal : Principal)

namespace Value

/-- The value that stands for nothing. -/
def nothing : Value := data .null

/-- The value stands for something. -/
def isSomething : Value → Bool
  | data .null => false
  | _ => true

/-- Equality of values. -/
def same : Value → Value → Bool
  | data left, data right => left.same right
  | principal left, principal right => left.same right
  | _, _ => false

end Value

/-- A bag of named values. -/
structure Context where
  entries : Entries Value

namespace Context

/-- A context with nothing in it. -/
def empty : Context := ⟨[]⟩

/-- A context of values. -/
def ofEntries (entries : Entries Value) : Context :=
  ⟨Entries.putAll [] entries⟩

/-- The value of a key. -/
def get? (context : Context) (key : Text) : Option Value :=
  Entries.find key context.entries

/-- The context has a key. -/
def contains (context : Context) (key : Text) : Bool :=
  (context.get? key).isSome

/-- A child with values added or replaced. -/
def extend (context : Context) (added : Entries Value) : Context :=
  ⟨context.entries.putAll added⟩

/-- Values given one by one by name may not take the name by which a context calls itself. -/
def reservedKey : Text := "self"

/-- A child with values given one by one by name. -/
def withValues (context : Context) (added : Entries Value) : Except Fault Context :=
  if added.any (·.1 == reservedKey) then
    .error ⟨.wrongType,
      "RequestContext.with_values() got multiple values for argument 'self'"⟩
  else .ok (context.extend added)

/-- The key of the principal. -/
def principalKey : Text := "principal"

/-- The key of the principal's identifier. -/
def identifierKey : Text := "principal_id"

/-- The key of the account claim. -/
def accountKey : Text := "account"

/-- What stands under a key, or the value for nothing. -/
def valueOf (context : Context) (key : Text) : Value :=
  (context.get? key).getD .nothing

/-- The principal of the request. -/
def principal (context : Context) : Value := context.valueOf principalKey

/-- The identifier of the principal. -/
def identifier (context : Context) : Value := context.valueOf identifierKey

/-- The account claim. -/
def account (context : Context) : Value := context.valueOf accountKey

/-- Somebody was authenticated. -/
def isAuthenticated (context : Context) : Bool := context.principal.isSomething

/-- A child that carries a principal, its identifier and the account claim. -/
def attach (base : Context) (principal identifier account : Value) : Context :=
  base.extend [(principalKey, principal), (identifierKey, identifier), (accountKey, account)]

/-- The complaint about a principal that is absent or of the other kind. -/
def wrongPrincipal (context : Context) (kind : PrincipalKind) : Fault :=
  let record := Text.ofString (Principal.recordName kind)
  ⟨.principalContext,
    if context.isAuthenticated then "invalid " ++ record ++ " type in context"
    else record ++ " not found in context"⟩

/-- The principal as a driver. -/
def requireDriver (context : Context) : Except Fault Driver :=
  match context.principal with
  | .principal (.driver driver) => .ok driver
  | _ => .error (context.wrongPrincipal .driver)

/-- The principal as a user. -/
def requireUser (context : Context) : Except Fault User :=
  match context.principal with
  | .principal (.user user) => .ok user
  | _ => .error (context.wrongPrincipal .user)

/-- The principal as one of a kind. -/
def require (context : Context) : PrincipalKind → Except Fault Principal
  | .driver => context.requireDriver.map .driver
  | .user => context.requireUser.map .user

/-- The principal as one of a kind; a request without one is not authorized. -/
def authorized (context : Context) (kind : PrincipalKind) : Except ServiceError Principal :=
  match context.require kind with
  | .ok principal => .ok principal
  | .error fault => .error (.unauthorized (.string fault.message))

/-- Every entry has an equal value in the other context. -/
def within (entries : Entries Value) (other : Context) : Bool :=
  entries.all fun (key, value) =>
    match other.get? key with
    | some own => value.same own
    | none => false

/-- Two contexts have the same keys with equal values. -/
def same (left right : Context) : Bool :=
  left.entries.length == right.entries.length && within left.entries right

end Context

/-- What the state of a request holds under a name. -/
inductive StateValue where
  | data (json : Json)
  | context (context : Context)

/-- The state that a request carries from layer to layer. -/
abbrev RequestState := Entries StateValue

namespace RequestState

/-- The name under which the context travels. -/
def contextKey : Text := "auth_context"

/-- The context that a request starts from: the one that travels with it, or an empty one where
nothing, or nothing that counts, stands in its place. -/
def base (state : RequestState) : Except Json Context :=
  match Entries.find contextKey state with
  | some (.context context) => .ok context
  | some (.data json) => if json.truthy then .error json else .ok .empty
  | none => .ok .empty

/-- The context of an authenticated request. -/
def authenticated (state : RequestState) : Except ServiceError Context :=
  match Entries.find contextKey state with
  | some (.context context) =>
    if context.isAuthenticated then .ok context
    else .error (.unauthorized "Authentication context missing")
  | _ => .error (.unauthorized "Authentication context missing")

/-- The principal of an authenticated request, as one of a kind. -/
def current (kind : PrincipalKind) (state : RequestState) : Except ServiceError Principal :=
  match authenticated state with
  | .error error => .error error
  | .ok context => context.authorized kind

end RequestState

end FleetGate
