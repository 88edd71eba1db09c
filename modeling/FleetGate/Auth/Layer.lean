import FleetGate.Auth.Pipeline
import FleetGate.Http.Message
import FleetGate.Http.Path

/-!
# The authentication layer

A layer stands in front of an application and guards the paths below a prefix. A guarded request
goes on only after its pipeline succeeded, with the new context in its state; otherwise it is
answered at once. All other requests go on untouched.
-/

namespace FleetGate

/-- A pipeline in front of the paths that it guards. -/
structure AuthLayer where
  guard : Guard
  pipeline : Pipeline
  legacy : Bool

/-- What a layer does with a request. -/
inductive Verdict where
  | forward (request : Request)
  | respond (response : Response)
  | raise (raised : Raised)

namespace AuthLayer

/-- The header that holds the credential. -/
def credentialHeader : Text := "authorization"

/-- A line about a failed check. -/
def failureLine (kind : PrincipalKind) (failure : AuthFailure) : LogLine :=
  ⟨.warning, Vocabulary.text kind ++ " authentication failed at " ++
    Text.ofString failure.kind.stage.name ++ ": " ++ Text.ofString failure.kind.code ++ " (" ++
    failure.detail.display ++ ")"⟩

/-- The complaint about a state in which something else stands in the place of the context. -/
def brokenBase (json : Json) : Raised :=
  .fault ⟨.missingAttribute,
    "'" ++ Text.ofString json.typeName ++ "' object has no attribute 'with_values'"⟩

/-- Whether a request has to be authenticated here. -/
def covers (layer : AuthLayer) (request : Request) : Bool :=
  request.isHttp && layer.guard.covers request.path

/-- Authenticates a guarded request. -/
def authenticate (layer : AuthLayer) (now : Int) (request : Request) : Traced Verdict :=
  let state := request.state.getD []
  let base := (RequestState.base state).toOption.getD .empty
  let run := layer.pipeline.run now (request.header? credentialHeader) base
  match run.result with
  | .ok context =>
    match RequestState.base state with
    | .error json => ⟨.raise (brokenBase json), run.calls, run.logs⟩
    | .ok _ =>
      let state := Entries.put RequestState.contextKey (.context context) state
      ⟨.forward { request with state := some state }, run.calls, run.logs⟩
  | .error (.failure failure) =>
    let logs := run.logs ++ [failureLine layer.pipeline.kind failure]
    match Response.ofFailure failure layer.legacy with
    | .ok response => ⟨.respond response, run.calls, logs⟩
    | .error fault => ⟨.raise (.fault fault), run.calls, logs⟩
  | .error raised => ⟨.raise raised, run.calls, run.logs⟩

/-- What the layer does with a request. -/
def handle (layer : AuthLayer) (now : Int) (request : Request) : Traced Verdict :=
  if layer.covers request then layer.authenticate now request
  else ⟨.forward request, [], []⟩

end AuthLayer

end FleetGate
