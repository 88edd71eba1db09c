import FleetGate.Http.Message
import FleetGate.Metrics.Instruments
import FleetGate.Traced

/-!
# Handlers

A handler takes a request and ends it, with a response or without one. While it works it may use
the instruments of the service. A layer is a function from handlers to handlers: it decides what
the handler behind it gets to see, and what becomes of its response.
-/

namespace FleetGate

/-- How a request ends: with a response or without one. -/
abbrev Outcome := Except Raised Response

namespace Outcome

/-- The outcome of making a response. -/
def ofResponse : Except Fault Response → Outcome
  | .ok response => .ok response
  | .error fault => .error (.fault fault)

end Outcome

/-- What becomes of the instruments while a request is handled, and how it ends. -/
abbrev Handler := Instruments → Request → Instruments × Traced Outcome

namespace Handler

/-- A handler that looks at nothing but the request. -/
def ofOutcome (outcome : Request → Outcome) : Handler :=
  fun instruments request => (instruments, .quiet (outcome request))

/-- A handler whose outcome is looked at once more. -/
def mapOutcome (change : Request → Outcome → Outcome) (inner : Handler) : Handler :=
  fun instruments request =>
    let (after, step) := inner instruments request
    (after, step.map (change request))

end Handler

end FleetGate
