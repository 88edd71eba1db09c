import FleetGate.Text.CodePoint

/-!
# Log lines

What the service says about itself while it works.
-/

namespace FleetGate

/-- How serious a log line is. -/
inductive LogLevel where
  | debug
  | info
  | warning
  | error
  deriving DecidableEq, Repr

/-- The name of a level. -/
def LogLevel.name : LogLevel → String
  | debug => "DEBUG"
  | info => "INFO"
  | warning => "WARNING"
  | error => "ERROR"

/-- A level with a message. -/
structure LogLine where
  level : LogLevel
  message : Text
  deriving DecidableEq

/-- A line in a log file; of a long message only the first line. -/
def LogLine.shown (line : LogLine) : Text :=
  Text.ofString line.level.name ++ " " ++ line.message.firstLine

end FleetGate
