import FleetGate.Log
import FleetGate.Principal.Words

/-!
# Traced steps

A step of a request has a result and leaves a trace: the lookups that it made in the stores, and
what it logged. Steps that follow one another add up their traces in order.
-/

namespace FleetGate

/-- A step of a request: its result, the lookups that were made, and what was logged. -/
structure Traced (α : Type) where
  result : α
  calls : List (PrincipalKind × Text)
  logs : List LogLine

namespace Traced

variable {α β : Type}

/-- A step that leaves no trace. -/
def quiet (result : α) : Traced α := ⟨result, [], []⟩

/-- A step that logs lines and asks no store. -/
def logging (result : α) (logs : List LogLine) : Traced α := ⟨result, [], logs⟩

/-- The same step with another result. -/
def map (change : α → β) (step : Traced α) : Traced β :=
  ⟨change step.result, step.calls, step.logs⟩

/-- A step that stands behind another one. -/
def after (earlier : Traced α) (later : Traced β) : Traced β :=
  ⟨later.result, earlier.calls ++ later.calls, earlier.logs ++ later.logs⟩

/-- The same step with more lines in the log. -/
def addLogs (step : Traced α) (logs : List LogLine) : Traced α :=
  { step with logs := step.logs ++ logs }

end Traced

end FleetGate
