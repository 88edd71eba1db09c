import FleetGate.Auth.Store
import FleetGate.Database.Record

/-!
# Services on the database

The driver and user stores of the service, and the count of online drivers by fleet. A database
that cannot be asked is a lookup error.
-/

namespace FleetGate

namespace Database

/-- The complaint about a database that cannot be asked; `task` says what for. -/
def unavailable (task : String) (reason : Text) : Raised :=
  .fault ⟨.principalLookup, Text.ofString task ++ ": " ++ reason⟩

/-- An identifier must have bytes to be looked up. -/
def checkId (id : Text) : Except Raised Unit :=
  if id.all (·.toChar?.isSome) then .ok ()
  else .error (.fault ⟨.encoding, (Bytes.loneHalves id).message⟩)

/-- The driver with an identifier. -/
def driver (database : Database) (id : Text) : Except Raised (Option Driver) :=
  match database.drivers, checkId id with
  | none, _ => .error (unavailable "driver lookup failed" (missingText .drivers))
  | some _, .error raised => .error raised
  | some rows, .ok () =>
    match rows.find? fun row => row.id == id with
    | none => .ok none
    | some row => ((Record.readDriver row).mapError .fault).map some

/-- The user with an identifier. -/
def user (database : Database) (id : Text) : Except Raised (Option User) :=
  match database.users, checkId id with
  | none, _ => .error (unavailable "user lookup failed" (missingText .users))
  | some _, .error raised => .error raised
  | some rows, .ok () =>
    match rows.find? fun row => row.id == id with
    | none => .ok none
    | some row => (Record.readUser row).map some

/-- What is logged about an identifier that no row has. -/
def notFoundLine (kind : PrincipalKind) (id : Text) : LogLine :=
  ⟨.warning, Text.ofString kind.label ++ " not found: " ++ id⟩

/-- The driver is online and may work. -/
def isCounted (row : Row) : Bool :=
  (row.cell "is_online").isOne && (row.cell "is_active").isOne

/-- The stored fleet of a row. -/
def storedFleet (row : Row) : Text :=
  (row.cell "fleet").asText

/-- The stored fleets of rows, each once, in order. -/
def distinctFleets (rows : List Row) : List Text :=
  ((rows.map storedFleet).eraseDups).mergeSort Text.le

/-- The number of counted drivers per fleet, for the stored fleets given. -/
def countFleets (rows : List Row) : List Text → Except Fault (List (Fleet × Nat))
  | [] => .ok []
  | stored :: rest =>
    match Vocabulary.ofName? (α := Fleet) stored with
    | none => .error (Vocabulary.unknownName Fleet stored)
    | some fleet =>
      (countFleets rows rest).map
        ((fleet, rows.countP fun row => storedFleet row == stored) :: ·)

/-- The number of online drivers per fleet; fleets without any are left out. -/
def onlineByFleet (database : Database) : Except Raised (List (Fleet × Nat)) :=
  match database.drivers with
  | none => .error (unavailable "online driver count failed" (missingText .drivers))
  | some rows =>
    let counted := rows.filter isCounted
    (countFleets counted (distinctFleets counted)).mapError .fault

end Database

namespace Store

/-- A lookup in a database as the answer of a store. -/
def answerOf {α : Type} (kind : PrincipalKind) (id : Text) (wrap : α → Principal) :
    Except Raised (Option α) → StoreAnswer × List LogLine
  | .ok (some record) => (.found (.principal (wrap record)), [])
  | .ok none => (.absent, [Database.notFoundLine kind id])
  | .error raised => (.raised raised, [])

/-- The store of drivers in a database. -/
def drivers (database : Database) : Store :=
  ⟨fun id => answerOf .driver id .driver (database.driver id)⟩

/-- The store of users in a database. -/
def users (database : Database) : Store :=
  ⟨fun id => answerOf .user id .user (database.user id)⟩

end Store

end FleetGate
