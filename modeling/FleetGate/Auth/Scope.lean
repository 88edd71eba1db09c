import FleetGate.Auth.Layer
import FleetGate.Objects

/-!
# Scopes

A server describes a request to an application by a scope, in which the state of the request is one
entry among others. Scopes and states are objects, and whoever holds one may write to it. A layer
hands on the scope that it gets where it has nothing to check, and a copy with a state of its own
once the request is authenticated. The one thing that it may write to the scope of its caller is
the list of header lines: to look into the header it makes a list of them, if they are none.
-/

namespace FleetGate

/-- What a scope has as its state: no entry, an entry with nothing, or the address of a state. -/
inductive StateSlot where
  | absent
  | null
  | held (state : Address)

/-- The header lines of a scope: a list, or a tuple, which is never the same as a list. -/
inductive HeaderLines where
  | list (lines : Headers)
  | tuple (lines : Headers)

namespace HeaderLines

/-- The lines in order. -/
def lines : HeaderLines → Headers
  | list lines => lines
  | tuple lines => lines

/-- The same lines as a list. -/
def asList (headers : HeaderLines) : HeaderLines :=
  list headers.lines

end HeaderLines

/-- The description of a request by the server. -/
structure Scope where
  type : Text
  server : Text
  method : Text
  rootPath : Text
  path : Text
  query : Bytes
  headers : HeaderLines
  state : StateSlot
  others : Entries Json

namespace Scope

/-- A scope that says nothing. -/
def empty : Scope := ⟨[], [], [], [], [], [], .list [], .absent, []⟩

/-- The scope with a list of its header lines. -/
def listHeaders (scope : Scope) : Scope :=
  { scope with headers := scope.headers.asList }

end Scope

/-- The scopes and states that there are. -/
structure Memory where
  scopes : Objects Scope
  states : Objects RequestState

namespace Memory

/-- The scope at an address. -/
def scopeAt (memory : Memory) (address : Address) : Scope :=
  (memory.scopes.get? address).getD .empty

/-- The state of a scope, if it has one. -/
def stateOf (memory : Memory) (scope : Scope) : Option RequestState :=
  match scope.state with
  | .absent | .null => none
  | .held address => memory.states.get? address

/-- The request that a scope describes. -/
def request (memory : Memory) (scope : Scope) : Request :=
  { server := scope.server
    isHttp := scope.type == "http"
    method := scope.method
    rootPath := scope.rootPath
    path := scope.path
    query := scope.query
    headers := scope.headers.lines
    state := memory.stateOf scope }

/-- Makes a list of the header lines of the scope at an address. -/
def listHeaders (memory : Memory) (address : Address) : Memory :=
  { memory with
    scopes := memory.scopes.write address (memory.scopeAt address).listHeaders }

/-- A copy of a scope with a new state. -/
def copy (memory : Memory) (scope : Scope) (state : RequestState) : Memory × Address :=
  let (states, own) := memory.states.make state
  let (scopes, child) := memory.scopes.make { scope with state := .held own }
  (⟨scopes, states⟩, child)

end Memory

/-- What is sent to a client. -/
inductive Message where
  | start (status : Status) (headers : Headers)
  | body (text : Text)

/-- A response is sent in two messages. -/
def Response.messages (response : Response) : List Message :=
  [.start response.status response.headers, .body response.body]

/-- How a call of a layer ends. Either the application behind it was called and gave some result,
be it a response or an exception, or the layer sent messages or raised something in its stead. -/
inductive Ending (ρ : Type) where
  | passed (result : ρ)
  | sent (messages : List Message)
  | raised (raised : Raised)

/-- What a call leaves behind and how it ends. -/
structure Aftermath (ρ : Type) where
  memory : Memory
  ending : Ending ρ

/-- An application is called with a scope. It may write to whatever it likes and have any result. -/
abbrev Application (ρ : Type) := Memory → Address → Memory × ρ

/-- A call of an application that is all that happens. -/
def Application.call {ρ : Type} (application : Application ρ) (memory : Memory)
    (scope : Address) : Aftermath ρ :=
  let (after, result) := application memory scope
  ⟨after, .passed result⟩

namespace AuthLayer

/-- A call of a layer in front of an application. -/
def serve {ρ : Type} (layer : AuthLayer) (now : Int) (application : Application ρ)
    (memory : Memory) (scope : Address) : Traced (Aftermath ρ) :=
  let own := memory.scopeAt scope
  let request := memory.request own
  if layer.covers request then
    let listed := memory.listHeaders scope
    let step := layer.authenticate now request
    match step.result with
    | .forward called =>
      let (after, child) := listed.copy (listed.scopeAt scope) (called.state.getD [])
      step.map fun _ => application.call after child
    | .respond response => step.map fun _ => ⟨listed, .sent response.messages⟩
    | .raise raised => step.map fun _ => ⟨listed, .raised raised⟩
  else .quiet (application.call memory scope)

end AuthLayer

end FleetGate
