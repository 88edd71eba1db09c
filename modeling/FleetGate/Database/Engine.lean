import FleetGate.Config.Settings
import FleetGate.Database.Dialect
import FleetGate.Log

/-!
# The database engine

Which database the service talks to, and how. A database URL in the environment decides; without
one the SQLite fallback is used if it is switched on, and the configured URL otherwise. Whether
the engine gets the options for SQLite or a connection pool of its own hangs on the text of the URL.
-/

namespace FleetGate

/-- The size of a connection pool. -/
structure Pool where
  size : Nat
  overflow : Nat
  checked : Bool
  deriving DecidableEq

/-- What an engine is asked for besides its URL: for SQLite, whether a connection stays with its
thread, and for other databases a pool. -/
inductive EngineOptions where
  | sqlite (sameThread : Bool)
  | pooled (pool : Pool)
  deriving DecidableEq

/-- The engine that the service runs on: the URL as it was configured and as the engine shows it,
and what follows from it. -/
structure Engine where
  configured : Text
  url : Text
  fallback : Bool
  dialect : Dialect
  echo : Bool
  options : EngineOptions

namespace Engine

/-- The variable of the environment that names the database. -/
def urlVariable : Text := "DATABASE_URL"

/-- The URL in use, and whether it is the fallback. -/
def activeUrl (environment : Entries Text) (settings : Settings) : Text × Bool :=
  match Entries.find urlVariable environment with
  | some (point :: rest) => (point :: rest, false)
  | _ =>
    if settings.useSqliteFallback then (settings.sqliteFallbackUrl, true)
    else (settings.databaseUrl, false)

/-- What is logged about the choice. -/
def choiceLog (url : Text) (fallback : Bool) : List LogLine :=
  if fallback then
    [⟨.warning, "[DEV] DATABASE_URL not set, using SQLite fallback: " ++ url⟩]
  else []

/-- The URL mentions SQLite somewhere. -/
def mentionsSqlite (url : Text) : Bool :=
  Text.contains url "sqlite"

/-- The options for a URL. One that mentions SQLite is taken for a URL of that dialect. -/
def optionsFor (url : Text) : EngineOptions :=
  if mentionsSqlite url then .sqlite false else .pooled ⟨5, 10, true⟩

/-- The pool of an engine. The options for SQLite leave everything to the dialect. -/
def pool (engine : Engine) : Option Pool :=
  match engine.options, engine.dialect with
  | .sqlite _, .sqlite => none
  | .sqlite _, .postgresql => some ⟨5, 10, false⟩
  | .pooled pool, _ => some pool

/-- The engine on a URL. -/
def ofUrl (configured : Text) (fallback echo : Bool) : Except Fault Engine := do
  let url ← (← DatabaseUrl.read configured).withoutPlugins
  let dialect ← url.dialect
  let shown ← url.write.mapError fun fault => ⟨.encoding, fault.message⟩
  return ⟨configured, shown, fallback, dialect, echo, optionsFor configured⟩

/-- The engine that an environment and settings call for. -/
def build (environment : Entries Text) (settings : Settings) : Except Fault Engine :=
  let (url, fallback) := activeUrl environment settings
  ofUrl url fallback settings.debug

end Engine

end FleetGate
