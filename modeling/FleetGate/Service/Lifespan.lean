import FleetGate.Service.Basic

/-!
# Starting and stopping

A service says what it is when it starts and that it is gone when it stops. On the fallback
database it also creates the tables that are missing.
-/

namespace FleetGate

namespace Service

/-- A line of general information. -/
def infoLine (message : Text) : LogLine := ⟨.info, message⟩

/-- What is logged about the database at the start. -/
def databaseLines (fallback : Bool) : List LogLine :=
  if fallback then
    [⟨.warning, "[DEV MODE] Using SQLite fallback database"⟩,
      infoLine "Creating SQLite development tables...",
      infoLine "Development database ready"]
  else [infoLine "Database: PostgreSQL"]

/-- What is logged at the start. -/
def startLines (service : Service) (measured fallback : Bool) : List LogLine :=
  [infoLine ("Starting " ++ service.settings.projectName),
    infoLine ("Metrics enabled: " ++ (Json.bool measured).shown),
    infoLine ("Legacy auth error shape: " ++
      (Json.bool service.settings.legacyErrorShape).shown)] ++ databaseLines fallback

/-- What is logged at the end. -/
def stopLines (service : Service) : List LogLine :=
  [infoLine ("Shutting down " ++ service.settings.projectName)]

/-- The database after the start. -/
def prepared (fallback : Bool) (database : Database) : Database :=
  if fallback then database.createTables else database

end Service

end FleetGate
