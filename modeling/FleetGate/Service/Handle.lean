import FleetGate.Http.Cors
import FleetGate.Metrics.Layer
import FleetGate.Service.Endpoint

/-!
# Handling requests

A request passes the layers of the service from the outside: it is counted, then shared between
origins, then authenticated as a user or as a driver if its path calls for it, and then
dispatched. Errors of the service become responses right behind the layers. What nobody expected
becomes an answer that gives nothing away, and comes out as well, so that it is not overlooked.
-/

namespace FleetGate

namespace AuthLayer

/-- A handler behind an authentication layer. -/
def protect (layer : AuthLayer) (now : Int) (inner : Handler) : Handler :=
  fun instruments request =>
    let step := layer.handle now request
    match step.result with
    | .forward request =>
      let (after, rest) := inner instruments request
      (after, step.after rest)
    | .respond response => (instruments, step.map fun _ => .ok response)
    | .raise raised => (instruments, step.map fun _ => .error raised)

end AuthLayer

/-- What becomes of a request in the end: the response that was sent, and what came out of the
service. -/
structure Conclusion where
  response : Option Response
  raised : Option Raised

namespace Service

/-- Makes responses of the errors that are meant for the client. -/
def answerErrors (legacy : Bool) : Outcome → Outcome
  | .error (.failure failure) => .ofResponse (Response.ofFailure failure legacy)
  | .error (.service error) => .ofResponse (Response.ofServiceError error)
  | outcome => outcome

/-- The endpoints with the errors that they are known for. -/
def endpoints (service : Service) (surroundings : Surroundings) : Handler :=
  (service.dispatch surroundings).mapOutcome fun _ =>
    answerErrors service.settings.legacyErrorShape

/-- A handler behind the authentication layers for several kinds, the first one outside. -/
def protect (service : Service) (surroundings : Surroundings) (inner : Handler) :
    List PrincipalKind → Handler
  | [] => inner
  | kind :: rest =>
    (service.layer surroundings.database kind).protect surroundings.now
      (service.protect surroundings inner rest)

/-- The kinds in the order of their layers. -/
def guarded : List PrincipalKind := [.user, .driver]

/-- All layers with the endpoints behind them. -/
def layers (service : Service) (surroundings : Surroundings) : Handler :=
  Counting.measure (Routing.label service.routes)
    (Cors.share (service.protect surroundings (service.endpoints surroundings) guarded))

/-- The error that stands for whatever was not expected. -/
def internalError : ServiceError :=
  ⟨ServiceError.generalName, "internal_error", "An unexpected error occurred", .int 500, .object []⟩

/-- What is logged about something that was not expected. -/
def unexpectedLine (raised : Raised) : LogLine :=
  ⟨.error, "Unexpected error: " ++ raised.message⟩

/-- How a request is concluded. An abandoned one is not answered, and what is raised after an answer
comes out behind it. -/
def conclude (step : Traced Outcome) : Traced Conclusion :=
  match step.result with
  | .ok response =>
    match response.trailing with
    | none => step.map fun _ => ⟨some response, none⟩
    | some raised =>
      (step.map fun _ => ⟨some response, some raised⟩).addLogs [unexpectedLine raised]
  | .error .abandoned => step.map fun _ => ⟨none, some .abandoned⟩
  | .error raised =>
    let response := (Response.ofServiceError internalError).toOption
    (step.map fun _ => ⟨response, some raised⟩).addLogs [unexpectedLine raised]

/-- Handles a request. Connections that are not HTTP are closed without a word. -/
def handle (service : Service) (surroundings : Surroundings) (instruments : Instruments)
    (request : Request) : Instruments × Traced Conclusion :=
  if request.isHttp then
    let (after, step) := service.layers surroundings instruments request
    (after, conclude step)
  else (instruments, .quiet ⟨none, none⟩)

end Service

end FleetGate
