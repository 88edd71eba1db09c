import FleetGate.Auth.Failure
import FleetGate.Database.Table
import FleetGate.Json.Reader
import FleetGate.Principal.Basic
import FleetGate.Timestamp.Iso

/-!
# Records

How the rows of drivers and users are made and read. A new record gets the defaults of its
columns; the fleets that a user sees depend on the role, and the moments of its making and of its
last change are filled in by the database. Reading a row goes through its columns in order, and the
first cell that cannot be read decides.
-/

namespace FleetGate

/-- A value given for a new record: a word of a vocabulary, or data as it is. -/
inductive Given where
  | role (role : Role)
  | fleet (fleet : Fleet)
  | status (status : DriverStatus)
  | access (access : FleetAccess)
  | timestamp (timestamp : Timestamp)
  | data (value : Json)

namespace Given

/-- A member with the title of its vocabulary, or data as messages show it. -/
def shown : Given → Text
  | role member => Vocabulary.qualified member
  | fleet member => Vocabulary.qualified member
  | status member => Vocabulary.qualified member
  | access member => Vocabulary.qualified member
  | timestamp moment => moment.write
  | data value => value.display

/-- Nothing was given. -/
def isNull : Given → Bool
  | data .null => true
  | _ => false

end Given

namespace Record

/-- The complaint about a value that does not go into its column. -/
def unbindable : Fault := ⟨.statement, "value does not fit its column"⟩

/-- The stored form of a word that was given as data: the name of the member with this value, or
the text itself if there is none. -/
def plainWord (α : Type) [Vocabulary α] : Json → Except Fault Cell
  | .null => .ok .null
  | .string text =>
    match Vocabulary.ofValue? (α := α) text with
    | some member => .ok (.text (Text.ofString (Vocabulary.name member)))
    | none => .ok (.text text)
  | _ => .error unbindable

/-- The stored form of a member. -/
def wordCell {α : Type} [Vocabulary α] (member : α) : Cell :=
  .text (Text.ofString (Vocabulary.name member))

/-- The stored form of a flag; zero and one count as flags. -/
def flagCell : Json → Except Fault Cell
  | .null => .ok .null
  | .bool flag => .ok (.integer (if flag then 1 else 0))
  | .int number => if number = 0 ∨ number = 1 then .ok (.integer number) else .error unbindable
  | .float number =>
    if number == 0 then .ok (.integer 0)
    else if number == 1 then .ok (.integer 1)
    else .error unbindable
  | _ => .error unbindable

/-- The stored form of what was given for a column. -/
def cellOf (column : Column) (given : Given) : Except Fault Cell :=
  match given, column.kind with
  | .role role, _ => .ok (wordCell role)
  | .fleet fleet, _ => .ok (wordCell fleet)
  | .status status, _ => .ok (wordCell status)
  | .access access, _ => .ok (wordCell access)
  | .timestamp timestamp, _ => .ok (.text timestamp.stored)
  | .data value, .word =>
    if column.name = "role" then plainWord Role value
    else if column.name = "fleet" then plainWord Fleet value
    else if column.name = "status" then plainWord DriverStatus value
    else plainWord FleetAccess value
  | .data value, .flag => flagCell value
  | .data value, .timestamp =>
    match value with
    | .null => .ok .null
    | _ => .error unbindable
  | .data value, .json => .ok (.text (value.write .spaced))
  | .data value, _ => Cell.ofParameter value

/-- The role that decides about the default visibility of a new user. -/
def roleGiven (given : Entries Given) : Except Fault Role :=
  match Entries.find "role" given with
  | none => .ok .none
  | some (.role role) => .ok role
  | some (.data value) =>
    if !value.truthy then .ok .none
    else
      match Vocabulary.ofJson? value with
      | some role => .ok role
      | none => .error unbindable
  | some _ => .error unbindable

/-- An identifier for a record that came without one. -/
def generatedId (position : Nat) : Text :=
  let digits := Nat.toDigits 10 position
  "00000000-0000-4000-8000-" ++
    (List.replicate (12 - digits.length) '0' ++ digits).map CodePoint.scalar

/-- The default of a column, if it has one. -/
def standard? (column : Column) (position : Nat) (given : Entries Given) :
    Except Fault (Option Given) :=
  let data (value : Json) : Except Fault (Option Given) := .ok (some (.data value))
  match column.name with
  | "id" => data (.string (generatedId position))
  | "nickname" | "car_plate" => data (.string [])
  | "status" => .ok (some (.status .idle))
  | "completed_count" => data (.int 0)
  | "is_online" | "is_approved" => data (.bool false)
  | "is_active" => data (.bool true)
  | "role" => .ok (some (.role .none))
  | "fleet_access" =>
    match roleGiven given with
    | .ok role => .ok (some (.access role.defaultFleetAccess))
    | .error fault => .error fault
  | _ => .ok none

/-- What is sent to the database for a column of a new record: what was given, or the default. A
list of permissions that is given as null is sent as null. -/
def valueOf (column : Column) (position : Nat) (given : Entries Given) :
    Except Fault (Option Given) :=
  match Entries.find (Text.ofString column.name) given with
  | some value =>
    if value.isNull && column.kind != .json then standard? column position given
    else .ok (some value)
  | none => standard? column position given

/-- What the database itself puts into a column for which nothing is sent: the moment of the
insertion, to the second, or nothing. -/
def filled (column : Column) (moment : Timestamp) : Cell :=
  match column.kind with
  | .timestamp => .text moment.storedToSecond
  | _ => .null

/-- The cell of a column in a record that is made at some moment. -/
def newCell (column : Column) (position : Nat) (moment : Timestamp) (given : Entries Given) :
    Except Fault Cell :=
  match valueOf column position given with
  | .error fault => .error fault
  | .ok none => .ok (filled column moment)
  | .ok (some value) => (cellOf column value).map (·.stored column.kind)

/-- The cells of a new record. -/
def newCells (position : Nat) (moment : Timestamp) (given : Entries Given) :
    List Column → Except Fault (Entries Cell)
  | [] => .ok []
  | column :: rest =>
    match newCell column position moment given with
    | .error fault => .error fault
    | .ok cell =>
      (newCells position moment given rest).map ((Text.ofString column.name, cell) :: ·)

/-- Inserts a new record. A column that the table does not have is refused first. -/
def insert (database : Database) (table : TableName) (moment : Timestamp)
    (given : Entries Given) : Except Fault Database :=
  if given.any fun (name, _) => (table.column? name).isNone then
    .error ⟨.wrongType, "invalid keyword argument"⟩
  else
    match newCells ((database.rows? table).getD []).length moment given table.columns with
    | .error fault => .error fault
    | .ok cells => database.insertRow table ⟨cells⟩

/-- What a new record holds in a column, as messages show it. -/
def shownValue (table : TableName) (given : Entries Given) (name : String) : Text :=
  match table.column? (Text.ofString name) with
  | none => []
  | some column =>
    match valueOf column 0 given with
    | .ok (some value) => value.shown
    | _ => "None"

/-- How a new record shows itself in diagnostics. -/
def shown (table : TableName) (given : Entries Given) : Text :=
  match table with
  | .drivers =>
    "<Driver(id=" ++ shownValue table given "id" ++ ", driver_no=" ++
      shownValue table given "driver_no" ++ ", fleet=" ++ shownValue table given "fleet" ++ ")>"
  | .users =>
    "<User(account=" ++ shownValue table given "account" ++ ", role=" ++
      shownValue table given "role" ++ ")>"

/-! ## Reading rows -/

/-- The member that a cell names. -/
def readWord (α : Type) [Vocabulary α] (cell : Cell) : Except Fault α :=
  match Vocabulary.ofName? cell.asText with
  | some member => .ok member
  | none => .error (Vocabulary.unknownName α cell.asText)

/-- The timestamp of a cell. -/
def readTimestamp : Cell → Except Fault Timestamp
  | .text text => Timestamp.readIso text
  | _ => .error ⟨.wrongType, "fromisoformat: argument must be str"⟩

/-- The value of a JSON cell; numbers stand for themselves. -/
def readJson : Cell → Except Fault Json
  | .null => .ok .null
  | .integer number => .ok (.int number)
  | .real number => .ok (.float number)
  | .text text =>
    match Json.read .values text with
    | .ok value => .ok value
    | .error (.nesting container) =>
      .error ⟨.recursion, Json.Stop.message text (.nesting container)⟩
    | .error (.longInteger digits) =>
      .error ⟨.badValue, Json.Stop.message text (.longInteger digits)⟩
    | .error stop => .error ⟨.jsonText, stop.message text⟩

/-- The driver in a row. -/
def readDriver (row : Row) : Except Fault Driver := do
  let fleet ← readWord Fleet (row.cell "fleet")
  let status ← readWord DriverStatus (row.cell "status")
  let createdAt ← readTimestamp (row.cell "created_at")
  let updatedAt ← readTimestamp (row.cell "updated_at")
  return {
    id := row.id
    name := (row.cell "name").asText
    nickname := (row.cell "nickname").asText
    driverNo := (row.cell "driver_no").asText
    account := (row.cell "account").asText
    carPlate := (row.cell "car_plate").asText
    fleet := fleet
    status := status
    isOnline := (row.cell "is_online").truthy
    isActive := (row.cell "is_active").truthy
    isApproved := (row.cell "is_approved").truthy
    createdAt := createdAt
    updatedAt := updatedAt }

/-- The permissions of a user with a role: those of the role if none are stored. -/
def permissionsOf (role : Role) (stored : Json) : Except Raised (List Permission) :=
  match stored with
  | .null => .ok role.defaultPermissions
  | other =>
    match Checked.asPermissions "permissions" other with
    | .ok permissions => .ok permissions
    | .error issues => .error (.rejected ⟨"UserPrincipal", issues⟩)

/-- The user in a row. -/
def readUser (row : Row) : Except Raised User := do
  let faulty {α : Type} (result : Except Fault α) : Except Raised α := result.mapError .fault
  let role ← faulty (readWord Role (row.cell "role"))
  let fleet ← faulty (readWord Fleet (row.cell "fleet"))
  let stored ← faulty (readJson (row.cell "permissions"))
  let fleetAccess ← faulty (readWord FleetAccess (row.cell "fleet_access"))
  let createdAt ← faulty (readTimestamp (row.cell "created_at"))
  let updatedAt ← faulty (readTimestamp (row.cell "updated_at"))
  let permissions ← permissionsOf role stored
  return {
    id := row.id
    name := (row.cell "name").asText
    account := (row.cell "account").asText
    role := role
    fleet := fleet
    permissions := permissions
    fleetAccess := fleetAccess
    isActive := (row.cell "is_active").truthy
    createdAt := createdAt
    updatedAt := updatedAt }

end Record

end FleetGate
