import FleetGate.Database.Service
import FleetGate.Proofs.Timestamp.Stored

/-!
# Drafts

A draft holds what is given for a new driver or user: an identifier, and values of the declared
kinds for some of the other columns. `DriverDraft.driver?` and `UserDraft.user?` are what a lookup
of the record has to answer: the given values and the defaults of the columns, with timestamps
that lost their zone and, for users, the permissions that their stored list resolves to. A draft
without a mandatory column, or with a value that has no stored form, describes no record.

An `Insertion` is a draft with the moment of the database's clock. `Database.afterAll` runs
insertions one after the other; one that fails is rolled back.
-/

namespace FleetGate

/-- A timestamp that lies in the calendar. -/
structure Moment where
  timestamp : Timestamp
  calendar : timestamp.IsCalendar

namespace Moment

/-- The timestamp that is read for one that was given, or else for the moment of the insertion. -/
def recorded (moment : Moment) : Option Moment → Timestamp
  | some given => given.timestamp.withoutZone
  | none => moment.timestamp.toSecond

/-- The stored text of a timestamp that was given, or else of the moment of the insertion. -/
def recordedText (moment : Moment) : Option Moment → Text
  | some given => given.timestamp.stored
  | none => moment.timestamp.storedToSecond

end Moment

/-- The text itself, if it has a stored form. -/
def Text.scalar? (text : Text) : Option Text :=
  if text.all (·.toChar?.isSome) then some text else none

namespace Given

/-- A text that is given. -/
def ofText (text : Text) : Given := .data (.string text)

/-- A number that is given. -/
def ofCount (count : Int) : Given := .data (.int count)

/-- A flag that is given. -/
def ofFlag (flag : Bool) : Given := .data (.bool flag)

/-- A timestamp that is given. -/
def ofMoment (moment : Moment) : Given := .timestamp moment.timestamp

/-- What is given for the fields that are not left out. -/
def ofFields (fields : List (String × Option Given)) : Entries Given :=
  fields.filterMap fun (name, value) => value.map (Text.ofString name, ·)

end Given

/-! ## Drivers -/

/-- What is given for a new driver. -/
structure DriverDraft where
  id : Text
  name : Option Text := none
  nickname : Option Text := none
  driverNo : Option Text := none
  account : Option Text := none
  carPlate : Option Text := none
  fleet : Option Fleet := none
  status : Option DriverStatus := none
  completedCount : Option Int := none
  isOnline : Option Bool := none
  isActive : Option Bool := none
  isApproved : Option Bool := none
  createdAt : Option Moment := none
  updatedAt : Option Moment := none

namespace DriverDraft

/-- The fields by their columns. -/
def fields (draft : DriverDraft) : List (String × Option Given) :=
  [("id", some (.ofText draft.id)), ("name", draft.name.map .ofText),
    ("nickname", draft.nickname.map .ofText), ("driver_no", draft.driverNo.map .ofText),
    ("account", draft.account.map .ofText), ("car_plate", draft.carPlate.map .ofText),
    ("fleet", draft.fleet.map .fleet), ("status", draft.status.map .status),
    ("completed_count", draft.completedCount.map .ofCount),
    ("is_online", draft.isOnline.map .ofFlag), ("is_active", draft.isActive.map .ofFlag),
    ("is_approved", draft.isApproved.map .ofFlag),
    ("created_at", draft.createdAt.map .ofMoment), ("updated_at", draft.updatedAt.map .ofMoment)]

/-- The driver that a draft describes. -/
def driver? (draft : DriverDraft) (moment : Moment) : Option Driver := do
  let id ← draft.id.scalar?
  let name ← draft.name.bind Text.scalar?
  let nickname ← (draft.nickname.getD []).scalar?
  let driverNo ← draft.driverNo.bind Text.scalar?
  let account ← draft.account.bind Text.scalar?
  let carPlate ← (draft.carPlate.getD []).scalar?
  let fleet ← draft.fleet
  guard (Cell.fits (draft.completedCount.getD 0))
  return {
    id := id
    name := name
    nickname := nickname
    driverNo := driverNo
    account := account
    carPlate := carPlate
    fleet := fleet
    status := draft.status.getD .idle
    isOnline := draft.isOnline.getD false
    isActive := draft.isActive.getD true
    isApproved := draft.isApproved.getD false
    createdAt := moment.recorded draft.createdAt
    updatedAt := moment.recorded draft.updatedAt }

end DriverDraft

/-! ## Users -/

/-- What is given for the permissions of a new user: nothing, null, or a list. -/
inductive GivenPermissions where
  | absent
  | null
  | list (items : List Json)

namespace GivenPermissions

/-- What is given, unless the field is left out. -/
def value? : GivenPermissions → Option Given
  | absent => none
  | null => some (.data .null)
  | list items => some (.data (.array items))

/-- The permissions of a user with a role: those that the stored list names, or those of the role
without a list. A list with anything else in it resolves to an error. -/
def resolve (role : Role) : GivenPermissions → Except Raised (List Permission)
  | absent | null => .ok role.defaultPermissions
  | list items =>
    match Record.readJson (.text ((Json.array items).write .spaced)) with
    | .ok stored => Record.permissionsOf role stored
    | .error fault => .error (.fault fault)

end GivenPermissions

/-- What is given for a new user. -/
structure UserDraft where
  id : Text
  name : Option Text := none
  account : Option Text := none
  role : Option Role := none
  fleet : Option Fleet := none
  permissions : GivenPermissions := .absent
  fleetAccess : Option FleetAccess := none
  isActive : Option Bool := none
  createdAt : Option Moment := none
  updatedAt : Option Moment := none

namespace UserDraft

/-- The fields by their columns. -/
def fields (draft : UserDraft) : List (String × Option Given) :=
  [("id", some (.ofText draft.id)), ("name", draft.name.map .ofText),
    ("account", draft.account.map .ofText), ("role", draft.role.map .role),
    ("fleet", draft.fleet.map .fleet), ("permissions", draft.permissions.value?),
    ("fleet_access", draft.fleetAccess.map .access), ("is_active", draft.isActive.map .ofFlag),
    ("created_at", draft.createdAt.map .ofMoment), ("updated_at", draft.updatedAt.map .ofMoment)]

/-- The role that is given, or the default one. -/
def ownRole (draft : UserDraft) : Role :=
  draft.role.getD .none

/-- The user that a draft describes once its permissions are known. -/
def user? (draft : UserDraft) (moment : Moment) : Option (List Permission → User) := do
  let id ← draft.id.scalar?
  let name ← draft.name.bind Text.scalar?
  let account ← draft.account.bind Text.scalar?
  let fleet ← draft.fleet
  return fun permissions => {
    id := id
    name := name
    account := account
    role := draft.ownRole
    fleet := fleet
    permissions := permissions
    fleetAccess := draft.fleetAccess.getD draft.ownRole.defaultFleetAccess
    isActive := draft.isActive.getD true
    createdAt := moment.recorded draft.createdAt
    updatedAt := moment.recorded draft.updatedAt }

end UserDraft

/-! ## Insertions -/

/-- What is given for a new record. -/
inductive Draft where
  | driver (draft : DriverDraft)
  | user (draft : UserDraft)

namespace Draft

/-- The table of the record. -/
def table : Draft → TableName
  | driver _ => .drivers
  | user _ => .users

/-- The fields by their columns. -/
def fields : Draft → List (String × Option Given)
  | driver draft => draft.fields
  | user draft => draft.fields

/-- The identifier of the record. -/
def id : Draft → Text
  | driver draft => draft.id
  | user draft => draft.id

/-- The account of the record, if it is given. -/
def account : Draft → Option Text
  | driver draft => draft.account
  | user draft => draft.account

/-- The draft describes a record. -/
def isComplete (draft : Draft) (moment : Moment) : Bool :=
  match draft with
  | driver draft => (draft.driver? moment).isSome
  | user draft => (draft.user? moment).isSome

end Draft

/-- The insertion of a draft at a moment of the database's clock. -/
structure Insertion where
  draft : Draft
  moment : Moment

/-- The table into which a record is inserted. -/
def Insertion.table (insertion : Insertion) : TableName :=
  insertion.draft.table

/-- Inserts the record of a draft. -/
def Insertion.run (insertion : Insertion) (database : Database) : Except Fault Database :=
  Record.insert database insertion.table insertion.moment.timestamp
    (Given.ofFields insertion.draft.fields)

/-- The account of a row. -/
def Row.account (row : Row) : Text :=
  (row.cell "account").asText

namespace Database

/-- The database after an insertion; one that fails is rolled back. -/
def attempt (database : Database) (insertion : Insertion) : Database :=
  match insertion.run database with
  | .ok after => after
  | .error _ => database

/-- The database after insertions into a fresh one. -/
def afterAll (insertions : List Insertion) : Database :=
  insertions.foldl attempt fresh

/-- The insertions that succeed, in their order. -/
def accepted (database : Database) : List Insertion → List Insertion
  | [] => []
  | insertion :: rest =>
    match insertion.run database with
    | .ok after => insertion :: accepted after rest
    | .error _ => accepted database rest

end Database

end FleetGate
