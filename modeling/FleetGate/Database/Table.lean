import FleetGate.Bytes.Utf8
import FleetGate.Json.Writer
import FleetGate.Number.Reading
import FleetGate.Fault

/-!
# Tables

A table is a list of rows in the order of insertion, and a row has a cell per column. The
database stores a value by the kind of its column: columns of text turn numbers into text, the
others turn text that spells a number into that number.
-/

namespace FleetGate

/-- A stored value. -/
inductive Cell where
  | null
  | integer (number : Int)
  | real (number : Float)
  | text (text : Text)

/-- What a column is for. -/
inductive ColumnKind where
  | text
  | word
  | count
  | flag
  | timestamp
  | json
  deriving DecidableEq

/-- A column of a table. Only an optional column may hold null. -/
structure Column where
  name : String
  kind : ColumnKind
  isOptional : Bool
  isUnique : Bool

namespace Cell

/-- The cell holds nothing. -/
def isNull : Cell → Bool
  | null => true
  | _ => false

/-- The cell as a text. -/
def asText : Cell → Text
  | null => []
  | integer number => Text.ofInt number
  | real number => Text.ofString (FloatParts.ofFloat number).tabular
  | text source => source

/-- Whether a cell counts as true. -/
def truthy : Cell → Bool
  | null => false
  | integer number => number != 0
  | real number => !(number == 0)
  | text source => !source.isEmpty

/-- The cell holds exactly the number one. -/
def isOne : Cell → Bool
  | integer number => number == 1
  | real number => number == 1
  | _ => false

/-- The cell as a JSON value. -/
def toJson : Cell → Json
  | null => .null
  | integer number => .int number
  | real number => .float number
  | text source => .string source

/-- Integers in a table have 64 bits. -/
def fits (number : Int) : Bool :=
  -0x8000000000000000 ≤ number && number < 0x8000000000000000

/-- A whole number is stored as an integer, unless it is as far out as integers go. -/
def ofFloat (number : Float) : Cell :=
  match (FloatParts.ofFloat number).whole? with
  | some whole => if fits (whole - 1) && fits (whole + 1) then integer whole else real number
  | none => real number

/-- The number that a text spells, blanks around it aside. -/
def ofNumeral? (source : Text) : Option Cell :=
  let isSpace (point : CodePoint) : Bool :=
    point.value == 32 || (9 ≤ point.value && point.value ≤ 13)
  let text := ((source.dropWhile isSpace).reverse.dropWhile isSpace).reverse
  let (negative, rest) := Text.takeSign text
  let magnitude := rest.lowerAscii
  match Text.spanDigits magnitude with
  | (_ :: _, []) =>
    let value : Int := natOfDigits (Text.spanDigits magnitude).1
    let value := if negative then -value else value
    if fits value then some (integer value)
    else (Text.toDecimal? magnitude).map fun decimal => ofFloat (decimal.toFloat negative)
  | _ => (Text.toDecimal? magnitude).map fun decimal => ofFloat (decimal.toFloat negative)

/-- The cell as a column of a kind stores it. -/
def stored (kind : ColumnKind) (cell : Cell) : Cell :=
  match kind with
  | .text | .word =>
    match cell with
    | null => null
    | other => text other.asText
  | _ =>
    match cell with
    | text source => (ofNumeral? source).getD cell
    | real number => ofFloat number
    | other => other

/-- A value as a parameter of a statement. Lists and objects are none. -/
def ofParameter : Json → Except Fault Cell
  | .null => .ok null
  | .bool flag => .ok (integer (if flag then 1 else 0))
  | .int number =>
    if fits number then .ok (integer number)
    else .error ⟨.overflow, "Python int too large to convert to SQLite INTEGER"⟩
  | .float number => .ok (if number == number then real number else null)
  | .string source =>
    if source.all (·.toChar?.isSome) then .ok (text source)
    else .error ⟨.encoding, (Bytes.loneHalves source).message⟩
  | .array _ | .object _ => .error ⟨.programming, "type is not supported"⟩

end Cell

/-- The cells of a row by their columns. -/
structure Row where
  cells : Entries Cell

/-- The cell of a column. -/
def Row.cell (row : Row) (column : Text) : Cell :=
  (Entries.find column row.cells).getD .null

/-- The row with another cell in a column. -/
def Row.put (row : Row) (column : Text) (cell : Cell) : Row :=
  ⟨Entries.put column cell row.cells⟩

/-- The identifier of a row. -/
def Row.id (row : Row) : Text :=
  (row.cell "id").asText

/-- The tables of the database. -/
inductive TableName where
  | drivers
  | users
  deriving DecidableEq, Repr

namespace TableName

/-- The name of a table in the database. -/
def name : TableName → String
  | drivers => "drivers"
  | users => "users"

/-- The columns of a table, in order. -/
def columns : TableName → List Column
  | drivers =>
    [⟨"id", .text, false, true⟩, ⟨"name", .text, false, false⟩,
      ⟨"nickname", .text, false, false⟩, ⟨"driver_no", .text, false, false⟩,
      ⟨"account", .text, false, true⟩, ⟨"car_plate", .text, false, false⟩,
      ⟨"fleet", .word, false, false⟩, ⟨"status", .word, false, false⟩,
      ⟨"completed_count", .count, false, false⟩, ⟨"is_online", .flag, false, false⟩,
      ⟨"is_active", .flag, false, false⟩, ⟨"is_approved", .flag, false, false⟩,
      ⟨"created_at", .timestamp, false, false⟩, ⟨"updated_at", .timestamp, false, false⟩]
  | users =>
    [⟨"id", .text, false, true⟩, ⟨"name", .text, false, false⟩,
      ⟨"account", .text, false, true⟩, ⟨"role", .word, false, false⟩,
      ⟨"fleet", .word, false, false⟩, ⟨"permissions", .json, true, false⟩,
      ⟨"fleet_access", .word, false, false⟩, ⟨"is_active", .flag, false, false⟩,
      ⟨"created_at", .timestamp, false, false⟩, ⟨"updated_at", .timestamp, false, false⟩]

/-- The column of a name. -/
def column? (table : TableName) (name : Text) : Option Column :=
  table.columns.find? fun column => Text.ofString column.name = name

/-- The column that a statement names, in which the case of ASCII letters does not count. -/
def named? (table : TableName) (name : Text) : Option Column :=
  table.column? name.lowerAscii

end TableName

/-- The tables, as far as they exist. -/
structure Database where
  drivers : Option (List Row)
  users : Option (List Row)

namespace Database

/-- A database without tables. -/
def bare : Database := ⟨none, none⟩

/-- A database with empty tables. -/
def fresh : Database := ⟨some [], some []⟩

/-- The rows of a table. -/
def rows? (database : Database) : TableName → Option (List Row)
  | .drivers => database.drivers
  | .users => database.users

/-- Replaces the rows of a table. -/
def setRows (database : Database) (table : TableName) (rows : List Row) : Database :=
  match table with
  | .drivers => { database with drivers := some rows }
  | .users => { database with users := some rows }

/-- Creates the tables that are missing. -/
def createTables (database : Database) : Database :=
  ⟨some (database.drivers.getD []), some (database.users.getD [])⟩

/-- What the database says about a missing table. -/
def missingText (table : TableName) : Text :=
  "(sqlite3.OperationalError) no such table: " ++ Text.ofString table.name

/-- The complaint about a missing table. -/
def missingTable (table : TableName) : Fault :=
  ⟨.operational, missingText table⟩

/-- A row that breaks a rule of its table: a mandatory cell is null, or a value that must be
unique stands in another row. -/
def breaksRules (table : TableName) (others : List Row) (row : Row) : Bool :=
  table.columns.any fun column =>
    let name := Text.ofString column.name
    let cell := row.cell name
    (cell.isNull && !column.isOptional) ||
      (column.isUnique && others.any fun other => (other.cell name).asText == cell.asText)

/-- The complaint about a row that breaks a rule. -/
def ruleBroken : Fault := ⟨.integrity, "constraint failed"⟩

/-- Inserts a row at the end of its table. -/
def insertRow (database : Database) (table : TableName) (row : Row) : Except Fault Database :=
  match database.rows? table with
  | none => .error (missingTable table)
  | some rows =>
    if breaksRules table rows row then .error ruleBroken
    else .ok (database.setRows table (rows ++ [row]))

/-- Overwrites a column in the rows with an identifier; says how many there are. -/
def overwrite (database : Database) (table : TableName) (column id : Text) (value : Json) :
    Except Fault (Database × Nat) :=
  match database.rows? table with
  | none => .error (missingTable table)
  | some rows =>
    match table.named? column with
    | none => .error ⟨.operational, "no such column"⟩
    | some spec =>
      let column := Text.ofString spec.name
      match Cell.ofParameter value with
      | .error fault => .error fault
      | .ok parameter =>
        let cell := parameter.stored spec.kind
        let others := rows.filter fun row => row.id != id
        let changed := (rows.filter fun row => row.id == id).map (·.put column cell)
        if changed.any (breaksRules table others) then .error ruleBroken
        else
          .ok (database.setRows table (rows.map fun row =>
            if row.id == id then row.put column cell else row), changed.length)

/-- The stored value of a column in the row with an identifier. -/
def cellOf (database : Database) (table : TableName) (column id : Text) : Except Fault Cell :=
  match database.rows? table with
  | none => .error (missingTable table)
  | some rows =>
    match table.named? column with
    | none => .error ⟨.operational, "no such column"⟩
    | some spec =>
      .ok (((rows.find? fun row => row.id == id).map (·.cell (Text.ofString spec.name))).getD .null)

/-- Deletes the rows with an identifier; says how many there were. -/
def delete (database : Database) (table : TableName) (id : Text) :
    Except Fault (Database × Nat) :=
  match database.rows? table with
  | none => .error (missingTable table)
  | some rows =>
    let kept := rows.filter fun row => row.id != id
    .ok (database.setRows table kept, rows.length - kept.length)

end Database

end FleetGate
