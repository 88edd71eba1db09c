import FleetGate.Fault
import FleetGate.Http.Message
import FleetGate.Http.Path
import FleetGate.Service.Template

/-!
# Routes

The service has five endpoints of its own, below a prefix, and in front of them four pages about
itself. Each stands at one path and is meant for some methods. A request goes to the first route
that takes both its path and its method; without one, a route that takes the path alone answers that
the method is wrong. A path that no route takes is tried once more with a slash at its end added or
removed. A route reads the parts of a path as it takes it, and a part that cannot be read ends the
search with a complaint. `Routing.label` says under which template a request is counted, before it
is dispatched.
-/

namespace FleetGate

/-- A page about the service: its description for programs, two forms of it for people, and the page
to which people come back from signing in. -/
inductive Page where
  | description
  | manual
  | signIn
  | reference
  deriving DecidableEq

namespace Page

/-- The path of a page. -/
def path : Page → Text
  | description => "/openapi.json"
  | manual => "/docs"
  | signIn => "/docs/oauth2-redirect"
  | reference => "/redoc"

/-- All pages, in the order of their routes. -/
def all : List Page := [description, manual, signIn, reference]

end Page

/-- What the service has to offer. -/
inductive Endpoint where
  | page (page : Page)
  | health
  | metrics
  | profile (kind : PrincipalKind)
  | root
  deriving DecidableEq

namespace Endpoint

/-- The methods that an endpoint is meant for. -/
def methods : Endpoint → List Text
  | page _ => ["GET", "HEAD"]
  | _ => ["GET"]

/-- The pages and the greeting stand at their paths whatever the prefix is. -/
def isBelow : Endpoint → Bool
  | page _ | root => false
  | _ => true

/-- All endpoints, in the order of their routes. -/
def all : List Endpoint :=
  Page.all.map page ++ [health, metrics, profile .driver, profile .user, root]

theorem mem_all (endpoint : Endpoint) : endpoint ∈ all := by
  rcases endpoint with (_ | _ | _ | _) | _ | _ | (_ | _) | _ <;> decide

end Endpoint

/-- An endpoint at a path, for some methods. -/
structure Route where
  template : Text
  methods : List Text
  endpoint : Endpoint
  deriving DecidableEq

namespace Route

/-- The route takes a path. -/
def takesPath (route : Route) (path : Text) : Bool :=
  Template.takes route.template path

/-- The route takes a request. -/
def takes (route : Route) (request : Request) : Bool :=
  route.takesPath request.routePath && route.methods.contains request.method

/-- The complaint about a path that the route takes but cannot read. -/
def fault? (route : Route) (path : Text) : Option Fault :=
  Template.fault? route.template path

end Route

namespace Routing

/-- The path below the prefix at which the endpoints for a kind of principal stand. -/
def branch : PrincipalKind → Text
  | .driver => "/drivers"
  | .user => "/users"

/-- The name of an endpoint, with which its path ends. -/
def nameOf : Endpoint → Text
  | .page page => page.path
  | .health => "/health"
  | .metrics => "/metrics"
  | .profile kind => branch kind ++ "/me"
  | .root => "/"

/-- The path in front of the name of an endpoint. -/
def frontOf (apiPrefix : Text) (endpoint : Endpoint) : Text :=
  if endpoint.isBelow then apiPrefix else []

/-- The route to an endpoint. -/
def route (apiPrefix : Text) (endpoint : Endpoint) : Route :=
  ⟨frontOf apiPrefix endpoint ++ nameOf endpoint, endpoint.methods, endpoint⟩

/-- The routes of a service below a prefix. -/
def routes (apiPrefix : Text) : List Route :=
  Endpoint.all.map (route apiPrefix)

/-- The slash between segments. -/
def slash : Text := Text.ofChar '/'

/-- A prefix starts with a slash and ends without one, unless it is empty. -/
def checkPrefix (apiPrefix : Text) : Except Fault Unit :=
  if apiPrefix.isEmpty then .ok ()
  else if !Text.startsWith apiPrefix slash then
    .error ⟨.assertion, "A path prefix must start with '/'"⟩
  else if Text.endsWith apiPrefix slash then
    .error ⟨.assertion, "A path prefix must not end with '/'"⟩
  else .ok ()

/-- A prefix is well formed, and so are the templates of the routes below it. -/
def check (apiPrefix : Text) : Except Fault Unit := do
  checkPrefix apiPrefix
  (routes apiPrefix).forM fun route => Template.check route.template

/-- Where a request goes. -/
inductive Destination where
  | endpoint (endpoint : Endpoint)
  | wrongMethod (route : Route)
  | elsewhere (path : Text)
  | nowhere
  | unreadable (fault : Fault)
  deriving DecidableEq

/-- The path of a request with a slash at its end added, or with all of them removed. The end that
counts is that of the path that is routed. -/
def otherSpelling (request : Request) : Text :=
  if Text.endsWith request.routePath slash then Path.dropTrailingSlashes request.path
  else request.path ++ slash

/-- The other spelling of the path of a request, if some route takes it. -/
def detour? (routes : List Route) (request : Request) : Option Text :=
  let other := otherSpelling request
  if request.routePath != slash && routes.any (·.takesPath (Path.below request.rootPath other)) then
    some other
  else none

/-- The complaint about a path that a route takes but cannot read. No two routes take one path. -/
def fault? (routes : List Route) (path : Text) : Option Fault :=
  routes.findSome? (·.fault? path)

/-- The route that a request falls to: the first that takes it, else the first that takes its
path. -/
def route? (routes : List Route) (request : Request) : Option Route :=
  match routes.find? (·.takes request) with
  | some route => some route
  | none => routes.find? (·.takesPath request.routePath)

/-- Where a request goes whose path can be read. -/
def readableDestination (routes : List Route) (request : Request) : Destination :=
  match route? routes request with
  | some route => if route.takes request then .endpoint route.endpoint else .wrongMethod route
  | none =>
    match detour? routes request with
    | none => .nowhere
    | some path =>
      match fault? routes (Path.below request.rootPath path) with
      | some fault => .unreadable fault
      | none => .elsewhere path

/-- Where a request goes. -/
def destination (routes : List Route) (request : Request) : Destination :=
  match fault? routes request.routePath with
  | some fault => .unreadable fault
  | none => readableDestination routes request

/-- The label of requests that no route takes. -/
def unmatched : Text := "unmatched"

/-- The label of the route that a request falls to. -/
def template (routes : List Route) (request : Request) : Text :=
  match route? routes request with
  | some route => route.template
  | none => unmatched

/-- The label under which a request is counted. -/
def label (routes : List Route) (request : Request) : Except Fault Text :=
  match fault? routes request.routePath with
  | some fault => .error fault
  | none => .ok (template routes request)

end Routing

end FleetGate
