import FleetGate.Auth.Context
import FleetGate.Traced

/-!
# Stores and principal resolution

A store looks a principal up by its identifier. It may find a record or none, or raise whatever
it likes. An error of a store is an unknown principal to the request, with the error as the cause
of the failure; only cancellation passes through.
-/

namespace FleetGate

/-- What becomes of a lookup in a store. A store that never answers is abandoned in the end. -/
inductive StoreAnswer where
  | found (record : Value)
  | absent
  | raised (raised : Raised)

/-- A lookup by identifier, with what the store logs on the way. -/
structure Store where
  lookup : Text → StoreAnswer × List LogLine

namespace Store

/-- A store that has the same answer to everything. -/
def constant (answer : StoreAnswer) : Store :=
  ⟨fun _ => (answer, [])⟩

/-- A store that holds its records in memory. -/
def ofEntries (records : Entries Value) : Store :=
  ⟨fun identifier =>
    match Entries.find identifier records with
    | some record => (.found record, [])
    | none => (.absent, [])⟩

end Store

/-- At most one store per kind of principal. -/
structure Stores where
  drivers : Option Store
  users : Option Store

namespace Stores

/-- The store of a kind. -/
def get? (stores : Stores) : PrincipalKind → Option Store
  | .driver => stores.drivers
  | .user => stores.users

/-- There is a store for a kind. -/
def supports (stores : Stores) (kind : PrincipalKind) : Bool :=
  (stores.get? kind).isSome

end Stores

namespace Resolution

/-- The failure of a principal that does not exist. -/
def notFound (kind : PrincipalKind) (detail : Text) : AuthFailure :=
  .withMessage .principalNotFound detail (Text.ofString kind.label ++ " does not exist")

/-- How an error of a store is reported: by its message, or by its name if it has none. -/
def storeDetail (raised : Raised) : Text :=
  if raised.message.isEmpty then raised.name else raised.message

/-- What is logged about an error of a store. -/
def storeLine (kind : PrincipalKind) (identifier : Text) (raised : Raised) : LogLine :=
  ⟨.warning, Vocabulary.text kind ++ " lookup failed for " ++ identifier ++ ": " ++
    raised.message⟩

/-- What an answer of the store of a kind means for a request, and what is logged about it. -/
def ofAnswer (kind : PrincipalKind) (identifier : Text) :
    StoreAnswer → Except Raised Value × List LogLine
  | .found record =>
    if record.isSomething then (.ok record, [])
    else
      (.error (.failure (notFound kind
        (Vocabulary.text kind ++ " " ++ identifier ++ " not found"))), [])
  | .absent =>
    (.error (.failure (notFound kind
      (Vocabulary.text kind ++ " " ++ identifier ++ " not found"))), [])
  | .raised raised =>
    if raised.isError then
      (.error (.failure ((notFound kind (storeDetail raised)).because raised)),
        [storeLine kind identifier raised])
    else (.error raised, [])

/-- The principal of an identifier. The store of the kind is asked once, and no other. -/
def resolve (stores : Stores) (identifier : Text) (kind : PrincipalKind) :
    Traced (Except Raised Value) :=
  match stores.get? kind with
  | none => ⟨.error (.fault ⟨.missingKey, kind.shown⟩), [], []⟩
  | some store =>
    let (answer, logs) := store.lookup identifier
    let (result, more) := ofAnswer kind identifier answer
    ⟨result, [(kind, identifier)], logs ++ more⟩

end Resolution

end FleetGate
