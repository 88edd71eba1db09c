import FleetGate.Json.Writer
import FleetGate.Principal.Words
import FleetGate.Timestamp

/-!
# Principals

A principal is an authenticated driver or back-office user: a snapshot of the stored record that
requests carry along. `Driver.read` and `User.read` build one from loose data and collect an
issue for every field that does not fit, in the order of the fields.
-/

namespace FleetGate

/-- An authenticated driver. -/
structure Driver where
  id : Text
  name : Text
  nickname : Text
  driverNo : Text
  account : Text
  carPlate : Text
  fleet : Fleet
  status : DriverStatus
  isOnline : Bool
  isActive : Bool
  isApproved : Bool
  createdAt : Timestamp
  updatedAt : Timestamp
  deriving DecidableEq

/-- An authenticated back-office user. -/
structure User where
  id : Text
  name : Text
  account : Text
  role : Role
  fleet : Fleet
  permissions : List Permission
  fleetAccess : FleetAccess
  isActive : Bool
  createdAt : Timestamp
  updatedAt : Timestamp
  deriving DecidableEq

/-- A driver or a user. -/
inductive Principal where
  | driver (record : Driver)
  | user (record : User)
  deriving DecidableEq

/-- Reading the fields of a record: the issues so far, and the value unless it is unusable. -/
abbrev Checked (α : Type) := Except (List Issue) α

namespace Checked

/-- A value that must be there. -/
def required {α : Type} (name : String) (read : String → Json → Checked α)
    (fields : Entries Json) : Checked α :=
  match Entries.find (Text.ofString name) fields with
  | some value => read name value
  | none => .error [.atField name .missing]

/-- A value with a default. -/
def optional {α : Type} (name : String) (standard : α) (read : String → Json → Checked α)
    (fields : Entries Json) : Checked α :=
  match Entries.find (Text.ofString name) fields with
  | some value => read name value
  | none => .ok standard

/-- The issues of a part that could not be read. -/
def issues {α : Type} : Checked α → List Issue
  | .ok _ => []
  | .error issues => issues

/-- A text. -/
def asText (name : String) : Json → Checked Text
  | .string text => .ok text
  | _ => .error [.atField name .stringType]

/-- A word of a vocabulary, by its value. -/
def asWord {α : Type} [Vocabulary α] (name : String) (value : Json) : Checked α :=
  match Vocabulary.ofJson? value with
  | some member => .ok member
  | none => .error [.atField name .enum]

/-- The words that count as true. -/
def trueWords : List Text := ["1", "on", "t", "true", "y", "yes"].map Text.ofString

/-- The words that count as false. -/
def falseWords : List Text := ["0", "off", "f", "false", "n", "no"].map Text.ofString

/-- A number as a flag: zero and one are, other integers of 64 bits are misspelt flags. -/
def numberFlag (number : Int) : Except Issue.Kind Bool :=
  if number = 0 then .ok false
  else if number = 1 then .ok true
  else .error .boolParsing

/-- A flag: true and false, zero and one, or one of the usual words in any case. -/
def flag : Json → Except Issue.Kind Bool
  | .bool flag => .ok flag
  | .int number =>
    if -0x8000000000000000 ≤ number ∧ number < 0x8000000000000000 then numberFlag number
    else .error .boolType
  | .float number =>
    match (FloatParts.ofFloat number).whole? with
    | some whole =>
      if whole.natAbs < 0x8000000000000000 then numberFlag whole else .error .boolType
    | none => .error .boolType
  | .string text =>
    let word := text.lowerAscii
    if word ∈ trueWords then .ok true
    else if word ∈ falseWords then .ok false
    else .error .boolParsing
  | _ => .error .boolType

/-- A flag of a record. -/
def asFlag (name : String) (value : Json) : Checked Bool :=
  match flag value with
  | .ok flag => .ok flag
  | .error kind => .error [.atField name kind]

/-- A timestamp of a record. -/
def asTimestamp (name : String) (value : Json) : Checked Timestamp :=
  match Timestamp.ofJson value with
  | .ok timestamp => .ok timestamp
  | .error kind => .error [.atField name kind]

/-- The issues of the items of a list that are no permissions. -/
def permissionIssues (name : String) : (position : Nat) → List Json → List Issue
  | _, [] => []
  | position, item :: rest =>
    let later := permissionIssues name (position + 1) rest
    match Vocabulary.ofJson? (α := Permission) item with
    | some _ => later
    | none => ⟨[.field (Text.ofString name), .index position], .enum⟩ :: later

/-- A list of permissions; null stands for the empty one. -/
def asPermissions (name : String) : Json → Checked (List Permission)
  | .null => .ok []
  | .array items =>
    match permissionIssues name 0 items with
    | [] => .ok (items.filterMap Vocabulary.ofJson?)
    | issues => .error issues
  | _ => .error [.atField name .tupleType]

end Checked

namespace Driver

/-- A driver from the fields of loose data. -/
def read (fields : Entries Json) : Except Rejection Driver :=
  let id := Checked.required "id" Checked.asText fields
  let name := Checked.required "name" Checked.asText fields
  let nickname := Checked.optional "nickname" [] Checked.asText fields
  let driverNo := Checked.required "driver_no" Checked.asText fields
  let account := Checked.required "account" Checked.asText fields
  let carPlate := Checked.optional "car_plate" [] Checked.asText fields
  let fleet : Checked Fleet := Checked.required "fleet" Checked.asWord fields
  let status : Checked DriverStatus := Checked.required "status" Checked.asWord fields
  let isOnline := Checked.required "is_online" Checked.asFlag fields
  let isActive := Checked.required "is_active" Checked.asFlag fields
  let isApproved := Checked.required "is_approved" Checked.asFlag fields
  let createdAt := Checked.required "created_at" Checked.asTimestamp fields
  let updatedAt := Checked.required "updated_at" Checked.asTimestamp fields
  match id, name, nickname, driverNo, account, carPlate, fleet, status, isOnline, isActive,
    isApproved, createdAt, updatedAt with
  | .ok id, .ok name, .ok nickname, .ok driverNo, .ok account, .ok carPlate, .ok fleet,
    .ok status, .ok isOnline, .ok isActive, .ok isApproved, .ok createdAt, .ok updatedAt =>
    .ok ⟨id, name, nickname, driverNo, account, carPlate, fleet, status, isOnline, isActive,
      isApproved, createdAt, updatedAt⟩
  | _, _, _, _, _, _, _, _, _, _, _, _, _ =>
    .error ⟨"DriverPrincipal", id.issues ++ name.issues ++ nickname.issues ++ driverNo.issues ++
      account.issues ++ carPlate.issues ++ fleet.issues ++ status.issues ++ isOnline.issues ++
      isActive.issues ++ isApproved.issues ++ createdAt.issues ++ updatedAt.issues⟩

/-- The fields of a driver as they are sent out. -/
def fields (driver : Driver) : Entries Json :=
  [("id", .string driver.id), ("name", .string driver.name),
    ("nickname", .string driver.nickname), ("driver_no", .string driver.driverNo),
    ("account", .string driver.account), ("car_plate", .string driver.carPlate),
    ("fleet", .string (Vocabulary.text driver.fleet)),
    ("status", .string (Vocabulary.text driver.status)), ("is_online", .bool driver.isOnline),
    ("is_active", .bool driver.isActive), ("is_approved", .bool driver.isApproved),
    ("created_at", .string driver.createdAt.write),
    ("updated_at", .string driver.updatedAt.write)]

/-- The role of every driver. -/
def role : Text := "driver"

end Driver

namespace User

/-- A user from the fields of loose data. -/
def read (fields : Entries Json) : Except Rejection User :=
  let id := Checked.required "id" Checked.asText fields
  let name := Checked.required "name" Checked.asText fields
  let account := Checked.required "account" Checked.asText fields
  let role : Checked Role := Checked.required "role" Checked.asWord fields
  let fleet : Checked Fleet := Checked.required "fleet" Checked.asWord fields
  let permissions :=
    Checked.optional "permissions" [] Checked.asPermissions fields
  let fleetAccess : Checked FleetAccess := Checked.required "fleet_access" Checked.asWord fields
  let isActive := Checked.required "is_active" Checked.asFlag fields
  let createdAt := Checked.required "created_at" Checked.asTimestamp fields
  let updatedAt := Checked.required "updated_at" Checked.asTimestamp fields
  match id, name, account, role, fleet, permissions, fleetAccess, isActive, createdAt,
    updatedAt with
  | .ok id, .ok name, .ok account, .ok role, .ok fleet, .ok permissions, .ok fleetAccess,
    .ok isActive, .ok createdAt, .ok updatedAt =>
    .ok ⟨id, name, account, role, fleet, permissions, fleetAccess, isActive, createdAt,
      updatedAt⟩
  | _, _, _, _, _, _, _, _, _, _ =>
    .error ⟨"UserPrincipal", id.issues ++ name.issues ++ account.issues ++ role.issues ++
      fleet.issues ++ permissions.issues ++ fleetAccess.issues ++ isActive.issues ++
      createdAt.issues ++ updatedAt.issues⟩

/-- The fields of a user as they are sent out. -/
def fields (user : User) : Entries Json :=
  [("id", .string user.id), ("name", .string user.name), ("account", .string user.account),
    ("role", .string (Vocabulary.text user.role)),
    ("fleet", .string (Vocabulary.text user.fleet)),
    ("permissions", .array (user.permissions.map fun permission =>
      .string (Vocabulary.text permission))),
    ("fleet_access", .string (Vocabulary.text user.fleetAccess)),
    ("is_active", .bool user.isActive), ("created_at", .string user.createdAt.write),
    ("updated_at", .string user.updatedAt.write)]

/-- The user holds a permission. -/
def has (user : User) (permission : Permission) : Bool :=
  user.permissions.contains permission

end User

/-- What comes of setting a name of a principal, which never changes the principal itself. -/
inductive Assignment where
  | accepted
  | frozen (rejection : Rejection)
  | refused (fault : Fault)

namespace Principal

/-- The kind of a principal. -/
def kind : Principal → PrincipalKind
  | driver _ => .driver
  | user _ => .user

/-- A principal of a kind from the fields of loose data. -/
def read (kind : PrincipalKind) (fields : Entries Json) : Except Rejection Principal :=
  match kind with
  | .driver => (Driver.read fields).map .driver
  | .user => (User.read fields).map .user

/-- The role of a principal. -/
def role : Principal → Text
  | driver _ => Driver.role
  | user record => Vocabulary.text record.role

/-- The fields of a principal as they are sent out. -/
def fields : Principal → Entries Json
  | driver record => record.fields
  | user record => record.fields

/-- The name of the record of a kind. -/
def recordName : PrincipalKind → String
  | .driver => "DriverPrincipal"
  | .user => "UserPrincipal"

/-- Names without a field that cannot be set either, by what is wrong with setting them. -/
def reservedNames : Entries Fault.Kind :=
  [("__class__", .wrongType), ("__weakref__", .missingAttribute),
    ("__fields_set__", .missingAttribute)]

/-- Setting a name of a principal. Fields are frozen, and so is every other name; only a name
that starts with an underscore is private to the holder of the principal and is no part of it. -/
def assign (principal : Principal) (name : Text) (value : Json) : Assignment :=
  if !Text.startsWith name "_" then
    .frozen ⟨recordName principal.kind, [⟨[.field name], .frozen⟩]⟩
  else if name = Text.ofString "__dict__" then
    match value with
    | .object _ => .accepted
    | _ => .refused ⟨.wrongType, []⟩
  else
    match Entries.find name reservedNames with
    | some kind => .refused ⟨kind, []⟩
    | none => .accepted

end Principal

end FleetGate
