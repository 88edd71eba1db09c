import FleetGate.Database.Url

/-!
# Dialects and their drivers

The scheme of a database URL names a dialect and, after a plus sign, one of its drivers. Only
drivers that are installed and work without blocking are of use. Each dialect has demands of its
own on the rest of the URL: SQLite has no server, and PostgreSQL may list its servers among the
options.
-/

namespace FleetGate

/-- The kinds of database that the service can talk to. -/
inductive Dialect where
  | sqlite
  | postgresql
  deriving DecidableEq, Repr

/-- The name of a dialect. -/
def Dialect.name : Dialect → String
  | sqlite => "sqlite"
  | postgresql => "postgresql"

/-- What a name of a driver leads to: a driver that is ready for use, one that blocks, one that
lacks a module, or something that is no driver. -/
inductive Connector where
  | ready (dialect : Dialect)
  | blocking (dialect : Dialect)
  | lacking (moduleName : String)
  | noDriver
  deriving DecidableEq, Repr

namespace Connector

/-- The schemes of a dialect: its name alone stands for the standard driver, and so does the driver
`base`. -/
def schemes (dialect : String) (standard : Connector) (others : List (String × Connector)) :
    Entries Connector :=
  (dialect, standard) :: (("base", standard) :: others).map fun (driver, connector) =>
    (Text.ofString dialect ++ Text.ofChar '+' ++ Text.ofString driver, connector)

/-- Names that belong to a dialect without being drivers. -/
def noDrivers (names : List String) : List (String × Connector) :=
  names.map fun name => (name, noDriver)

/-- The drivers of MySQL and MariaDB. -/
def mysqlDrivers : List (String × Connector) :=
  [("mysqldb", lacking "MySQLdb"), ("pymysql", lacking "pymysql"), ("cymysql", lacking "cymysql"),
    ("aiomysql", lacking "aiomysql"), ("asyncmy", lacking "asyncmy"), ("pyodbc", lacking "pyodbc"),
    ("mysqlconnector", lacking "mysql"), ("mariadbconnector", lacking "mariadb")] ++
    noDrivers ["dml", "enumerated", "expression", "json", "mariadb", "reflection",
      "reserved_words", "types"]

/-- All schemes that lead somewhere. -/
def table : Entries Connector :=
  schemes "sqlite" (blocking .sqlite)
    ([("pysqlite", blocking .sqlite), ("aiosqlite", ready .sqlite),
      ("pysqlcipher", lacking "pysqlcipher3")] ++ noDrivers ["dialect", "dml", "json"]) ++
  schemes "postgresql" (lacking "psycopg")
    ([("asyncpg", ready .postgresql), ("psycopg", lacking "psycopg"),
      ("psycopg_async", lacking "psycopg"), ("psycopg2", lacking "psycopg2"),
      ("psycopg2cffi", lacking "psycopg2cffi"), ("pg8000", lacking "pg8000")] ++
      noDrivers ["array", "bitstring", "dialect", "dml", "ext", "hstore", "json", "named_types",
        "operators", "pg_catalog", "ranges", "types"]) ++
  schemes "mysql" (lacking "MySQLdb") (mysqlDrivers ++ noDrivers ["dialect"]) ++
  schemes "mariadb" (lacking "MySQLdb") mysqlDrivers ++
  schemes "oracle" (lacking "oracledb")
    ([("oracledb", lacking "oracledb"), ("oracledb_async", lacking "oracledb"),
      ("cx_oracle", lacking "cx_Oracle")] ++ noDrivers ["dialect", "dictionary", "types"]) ++
  schemes "mssql" (lacking "pyodbc")
    ([("pyodbc", lacking "pyodbc"), ("aioodbc", lacking "aioodbc"),
      ("pymssql", lacking "pymssql"), ("mssqlpython", lacking "mssql_python")] ++
      noDrivers ["dialect", "information_schema", "json"])

/-- What a scheme leads to. A scheme has at most two parts. -/
def ofScheme (scheme : Text) : Except Fault Connector :=
  if 2 < (Text.splitOn '+' scheme).length then
    .error ⟨.badValue, "too many values to unpack (expected 2)"⟩
  else
    match Entries.find scheme table with
    | some connector => .ok connector
    | none => .error ⟨.unknownDialect, "Can't load plugin"⟩

/-- The dialect of a driver that can be loaded. -/
def load : Connector → Except Fault Dialect
  | ready dialect | blocking dialect => .ok dialect
  | lacking moduleName =>
    .error ⟨.missingModule, "No module named '" ++ Text.ofString moduleName ++ Text.ofChar '\''⟩
  | noDriver => .error ⟨.missingAttribute, "no dialect"⟩

/-- A driver must not block. -/
def checkAsync : Connector → Except Fault Unit
  | blocking _ =>
    .error ⟨.invalidRequest, "The asyncio extension requires an async driver to be used."⟩
  | _ => .ok ()

end Connector

namespace DatabaseUrl

/-! ## Options of a kind -/

/-- The words of an option that switch it on. -/
def onWords : List Text := ["true", "yes", "on", "y", "t", "1"]

/-- The words of an option that switch it off. -/
def offWords : List Text := ["false", "no", "off", "n", "f", "0"]

/-- The values of an option. -/
def values (url : DatabaseUrl) (name : String) : List Text :=
  (Entries.find (Text.ofString name) url.options).getD []

/-- An option that is a switch; one with several values is on. -/
def switch (url : DatabaseUrl) (name : String) : Except Fault Bool :=
  match url.values name with
  | [] => .ok false
  | [text] =>
    let word := text.trim.lowerAscii
    if onWords.contains word then .ok true
    else if offWords.contains word then .ok false
    else .error ⟨.badValue, "String is not true/false: " ++ word.quoted⟩
  | _ => .ok true

/-- An option that must be a number, as far as it is given. -/
def checkNumber {α : Type} (url : DatabaseUrl) (read : Text → Except Fault α) (name : String) :
    Except Fault Unit :=
  match url.values name with
  | [] => .ok ()
  | [text] => (read text).map fun _ => ()
  | _ => .error ⟨.wrongType, "not a text"⟩

/-! ## SQLite -/

/-- The URL names a server or somebody who logs in there. -/
def namesServer (url : DatabaseUrl) : Bool :=
  [url.user, url.password, url.host].any (fun part => !(part.getD []).isEmpty) ||
    url.port.getD 0 != 0

/-- The options that the driver for SQLite takes for itself. -/
def sqliteOptions : List Text :=
  ["uri", "timeout", "isolation_level", "detect_types", "check_same_thread", "cached_statements"]

/-- A URL for SQLite names no server, and its options are of the right kinds. Other options are
for the database, which must then be named. -/
def checkSqlite (url : DatabaseUrl) : Except Fault Unit := do
  if url.namesServer then throw ⟨.urlArgument, "Invalid SQLite URL"⟩
  let isUri ← url.switch "uri"
  url.checkNumber Text.readFloat "timeout"
  url.checkNumber Text.readInt "detect_types"
  discard (url.switch "check_same_thread")
  url.checkNumber Text.readInt "cached_statements"
  if isUri && url.database.isNone && url.options.any (!sqliteOptions.contains ·.1) then
    throw ⟨.wrongType, "no database"⟩

/-! ## PostgreSQL -/

/-- The complaint about a list of servers that does not fit together. -/
def wrongServers : Fault := ⟨.urlArgument, "hosts and ports do not fit together"⟩

/-- The servers among the options: hosts, texts of ports, and whether each host brings its port. -/
structure Servers where
  hosts : Option (List Text)
  ports : Option (List Text)
  joined : Bool

/-- A character of a host that may bring its port. -/
def isHostPoint : CodePoint → Bool
  | .scalar char => char.isAlphanum || char == '-' || char == '.'
  | .surrogate _ => false

/-- A host with its port, or an empty text in its place. -/
def splitServer? (text : Text) : Option (Text × Text) :=
  let host := text.takeWhile isHostPoint
  match text.drop host.length with
  | [] => some (host, [])
  | mark :: port =>
    if mark.is ':' && port.all (·.digit?.isSome) then some (host, port) else none

/-- The hosts among the options. Several options bring a port each, and so may a single one; else a
single one lists hosts with commas between them. -/
def hostOptions (url : DatabaseUrl) : Except Fault Servers :=
  match url.values "host" with
  | [] => .ok ⟨none, none, false⟩
  | [text] =>
    match splitServer? text with
    | some (host, port) => .ok ⟨some [host], some [port], true⟩
    | none => .ok ⟨some (Text.splitOn ',' text), none, false⟩
  | texts =>
    let parts := texts.map (Text.splitOn ':')
    if parts.all (2 < ·.length) then
      .error ⟨.badValue, "too many values to unpack (expected 2)"⟩
    else
      .ok ⟨some (parts.map fun part => (part[0]?).getD []),
        some (parts.map fun part => (part[1]?).getD []), true⟩

/-- The servers among the options. Ports of their own must not meet hosts that bring theirs. -/
def servers (url : DatabaseUrl) : Except Fault Servers := do
  let found ← url.hostOptions
  match url.values "port" with
  | [] => return found
  | ports =>
    if found.joined then throw wrongServers
    return { found with
      ports := some (match ports with
        | [text] => Text.splitOn ',' text
        | texts => texts) }

/-- The number of a port, if it is given. -/
def readPort (text : Text) : Except Fault (Option Int) :=
  if text.isEmpty then .ok none
  else
    match text.toInt? with
    | some number => .ok (some number)
    | none => .error wrongServers

/-- As many ports as hosts are given, or one for all, and none without a host to several. -/
def isBalanced (hosts ports : List Text) : Bool :=
  hosts.length == ports.length || (hosts.length ≤ 1 && ports.length ≤ 1)

/-- A URL for PostgreSQL lists its servers consistently: of several servers each needs a host and a
port. -/
def checkPostgresql (url : DatabaseUrl) : Except Fault Unit := do
  let servers ← url.servers
  let hosts := servers.hosts.getD []
  let ports ← (servers.ports.getD []).mapM readPort
  if servers.ports.isSome && !isBalanced hosts (servers.ports.getD []) then throw wrongServers
  if 1 < hosts.length then
    if hosts.any (·.isEmpty) then throw wrongServers
    if ports.length < hosts.length || ports.any (fun port => port.getD 0 == 0) then
      throw wrongServers
  url.checkNumber Text.readInt "prepared_statement_cache_size"

/-- The demands of a dialect on a URL. -/
def check (url : DatabaseUrl) : Dialect → Except Fault Unit
  | .sqlite => url.checkSqlite
  | .postgresql => url.checkPostgresql

/-- The option that names plugins to load; there are none. -/
def pluginOption : String := "plugin"

/-- The URL without the options that are for the engine itself. -/
def withoutPlugins (url : DatabaseUrl) : Except Fault DatabaseUrl :=
  if (url.values pluginOption).isEmpty then
    .ok { url with options := url.options.filter (·.1 != Text.ofString "plugins") }
  else .error ⟨.unknownDialect, "Can't load plugin"⟩

/-- The dialect of a URL, with a driver that can be used and demands that are met. -/
def dialect (url : DatabaseUrl) : Except Fault Dialect := do
  let connector ← Connector.ofScheme url.scheme
  let dialect ← connector.load
  url.check dialect
  connector.checkAsync
  return dialect

end DatabaseUrl

end FleetGate
