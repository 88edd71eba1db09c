import FleetGate.Auth.Layer
import FleetGate.Config.Settings
import FleetGate.Database.Dialect
import FleetGate.Database.Service
import FleetGate.Database.Session
import FleetGate.Service.Route

/-!
# The service

A service is put together once, from its settings and the stores of its principals, and then takes
one request after the other. What changes between requests, the clock and the database, is handed in
with each of them as its surroundings, and so are the pages about the service, which it does not
write itself.
-/

namespace FleetGate

/-- Where the principals of a kind are looked up: in the database of the service, or in a store of
their own. -/
inductive Source where
  | database
  | own (store : Store)

namespace Source

/-- The principals are looked up in the database. -/
def isDatabase : Source → Bool
  | database => true
  | own _ => false

/-- The store behind a source; `standard` is the one on the database. -/
def store (standard : Store) : Source → Store
  | database => standard
  | own store => store

end Source

/-- A service, put together. -/
structure Service where
  settings : Settings
  secret : Text
  drivers : Source
  users : Source
  context : RequestState → Except Raised Context

/-- The database as the endpoints reach it: its dialect, its answer to the question for a sign of
life, which may be a complaint or an error of another kind, the errors that the calls of a session
raise, and whether a session is over before the answer is sent or only afterwards. -/
structure Connection where
  dialect : Dialect
  sign : Except Raised (Option Text)
  calls : Session.Behaviour Fault
  early : Bool

/-- The pages about the service: what a page says to those who come by a root path, and in which
order the methods of a route are listed. -/
structure Pages where
  answer : Page → Text → Except Fault Response
  reversed : Bool

/-- The methods of a route in one line. -/
def Pages.listing (pages : Pages) (methods : List Text) : Text :=
  Text.joinWith ", " (if pages.reversed then methods.reverse else methods)

/-- What a request meets when it comes in: the time, the tables behind the stores, whether the
database is the fallback, the connection to it, and the pages. -/
structure Surroundings where
  now : Int
  database : Database
  fallback : Bool
  connection : Connection
  pages : Pages

namespace Service

/-- Endpoints take the context of the authenticated request. -/
def standardContext (state : RequestState) : Except Raised Context :=
  (RequestState.authenticated state).mapError .service

/-- A service needs a secret and a well-formed prefix. -/
def build (settings : Settings) (drivers users : Source)
    (context : RequestState → Except Raised Context) : Except Fault Service :=
  match settings.jwtSecret with
  | none | some [] =>
    .error ⟨.badValue, "JWT_SECRET_KEY must be set to verify bearer tokens"⟩
  | some (point :: rest) =>
    match Routing.check settings.apiPrefix with
    | .error fault => .error fault
    | .ok () => .ok ⟨settings, point :: rest, drivers, users, context⟩

/-- The routes of a service. -/
def routes (service : Service) : List Route :=
  Routing.routes service.settings.apiPrefix

/-- The source of the principals of a kind. -/
def source (service : Service) : PrincipalKind → Source
  | .driver => service.drivers
  | .user => service.users

/-- The stores of a service on a database. -/
def stores (service : Service) (database : Database) : Stores :=
  ⟨some (service.drivers.store (.drivers database)),
    some (service.users.store (.users database))⟩

/-- The layer that guards the endpoints for a kind of principal. -/
def layer (service : Service) (database : Database) (kind : PrincipalKind) : AuthLayer :=
  ⟨.ofPrefix (service.settings.apiPrefix ++ Routing.branch kind),
    ⟨kind, service.secret, service.stores database⟩, service.settings.legacyErrorShape⟩

end Service

end FleetGate
