import FleetGate.Http.Handler
import FleetGate.Http.Url
import FleetGate.Metrics.Exposition
import FleetGate.Service.Basic

/-!
# Endpoints

What the service answers once a request has come through all layers: a page about itself, its
health, its metrics, the profile of the principal, a greeting at the root, or that there is nothing
at the path.
-/

namespace FleetGate

namespace Service

/-- The body that greets at the root. -/
def greeting (service : Service) : Json :=
  .object [("name", .string service.settings.projectName), ("version", "1.0.0"),
    ("docs", .string Page.manual.path), ("openapi", .string Page.description.path),
    ("api", .string service.settings.apiPrefix)]

/-! ## Health -/

/-- What is to be said about the fallback database. -/
def fallbackNotice : Text := "Using SQLite dev fallback - PostgreSQL not available"

/-- What the database is reported as. -/
def databaseName (surroundings : Surroundings) : Text :=
  surroundings.connection.dialect.name

/-- The body of a health report about a database that complains about something or does not. -/
def healthBody (surroundings : Surroundings) (complaint : Option Text) : Json :=
  match complaint with
  | some complaint =>
    .object [("status", "degraded"),
      ("issues", .array [.string (Text.ofString "Database: " ++ complaint)])]
  | none =>
    let fields : Entries Json :=
      [("status", "ok"), ("database", .string (databaseName surroundings))]
    let warnings : Entries Json := [("warnings", .array [.string fallbackNotice])]
    .object (if surroundings.fallback then fields ++ warnings else fields)

/-- Asks the database for a sign of life and reports how long it took, in milliseconds. An error of
another kind than a complaint leaves nothing to report. -/
def askHealth (surroundings : Surroundings) (instruments : Instruments) :
    Instruments × Outcome :=
  let (asked, waiting) := instruments.read
  match surroundings.connection.sign with
  | .error raised => (waiting, .error raised)
  | .ok complaint =>
    let (answered, done) := waiting.read
    let healthy := complaint.isNone
    let latency := if healthy then (answered - asked) * 1000 else -1
    (done.update (·.setHealth ⟨"database", databaseName surroundings⟩ healthy latency),
      .ofResponse (Response.ofJson 200 (healthBody surroundings complaint)))

/-- How an outcome ends the body of a session. -/
def sessionBody : Outcome → Session.Ending Raised
  | .ok _ => .normal
  | .error raised => if raised.isError then .error raised else .cancelled raised

/-- An outcome with the session behind it. What comes out of the session takes its place, unless the
answer has been sent by then. -/
def inSession (connection : Connection) (outcome : Outcome) : Outcome :=
  match (Session.run (connection.calls.map .fault) (sessionBody outcome)).ending with
  | .normal | .closed => outcome
  | .error raised | .cancelled raised =>
    match outcome with
    | .error _ => .error raised
    | .ok response =>
      if connection.early then .error raised
      else .ok { response with trailing := some raised }

/-- Reports the health of the database, in a session of its own. -/
def health (surroundings : Surroundings) (instruments : Instruments) :
    Instruments × Traced Outcome :=
  let (after, outcome) := askHealth surroundings instruments
  (after, .quiet (inSession surroundings.connection outcome))

/-! ## Metrics -/

/-- The media type of an exposition. -/
def expositionText : Text := "text/plain; version=1.0.0; charset=utf-8"

/-- Counts of online drivers as reports to a collector. -/
def onlineReports (counts : List (Fleet × Nat)) : Entries Float :=
  counts.map fun (fleet, count) => (Vocabulary.text fleet, Float.ofNat count)

/-- Takes the counts of online drivers over into a collector. When the database cannot be asked,
the collector stays as it is and a line is logged; anything else is not expected here. -/
def refreshed (collector : Collector) :
    Except Raised (List (Fleet × Nat)) → Except Raised (Collector × List LogLine)
  | .ok counts => .ok (collector.setOnline (onlineReports counts), [])
  | .error (.fault ⟨.principalLookup, message⟩) =>
    .ok (collector, [⟨.warning, "Online driver gauge not refreshed: " ++ message⟩])
  | .error raised => .error raised

/-- A collector before an exposition. Online drivers can be counted in the database only. -/
def scraped (service : Service) (database : Database) (collector : Collector) :
    Except Raised (Collector × List LogLine) :=
  if service.drivers.isDatabase then refreshed collector database.onlineByFleet
  else .ok (collector, [])

/-- Exposes the metrics. -/
def metrics (service : Service) (surroundings : Surroundings) (instruments : Instruments) :
    Instruments × Traced Outcome :=
  match instruments.collector with
  | none =>
    (instruments, .quiet (.ofResponse
      (Response.ofText 503 Response.plainText "Prometheus registry not initialized")))
  | some collector =>
    match service.scraped surroundings.database collector with
    | .error raised => (instruments, .quiet (.error raised))
    | .ok (collector, logs) =>
      ({ instruments with collector := some collector },
        .logging (.ofResponse (Response.ofText 200 expositionText collector.exposition)) logs)

/-! ## Profiles -/

/-- The body of a profile: the principal and the account claim of its token. -/
def profileBody (kind : PrincipalKind) (principal : Principal) (account : Value) : Json :=
  let account : Json :=
    match account with
    | .data json => json
    | .principal record => .object record.fields
  .object [(Vocabulary.text kind, .object principal.fields), ("account", account)]

/-- Shows a principal of a kind its profile. -/
def profile (service : Service) (kind : PrincipalKind) (request : Request) : Outcome :=
  match service.context (request.state.getD []) with
  | .error raised => .error raised
  | .ok context =>
    match context.authorized kind with
    | .error error => .error (.service error)
    | .ok principal =>
      .ofResponse (Response.ofRecord 200 (profileBody kind principal context.account))

/-! ## Dispatch -/

/-- A body that says why there is nothing else. -/
def remark (status : Status) (reason : String) : Except Fault Response :=
  Response.ofJson status (.object [("detail", .string reason)])

/-- Sends a request to another path. -/
def redirect (request : Request) (path : Text) : Except Fault Response := do
  let location ← Url.escape (← request.urlAt path)
  return ⟨307, [("content-length", "0"), ("location", location)], [], none⟩

/-- Answers a request at an endpoint. -/
def serve (service : Service) (surroundings : Surroundings) : Endpoint → Handler
  | .page page => .ofOutcome fun request =>
    .ofResponse (surroundings.pages.answer page request.rootPath)
  | .health => fun instruments _ => health surroundings instruments
  | .metrics => fun instruments _ => service.metrics surroundings instruments
  | .profile kind => .ofOutcome (service.profile kind)
  | .root => .ofOutcome fun _ => .ofResponse (Response.ofJson 200 service.greeting)

/-- Answers a request where it goes. -/
def dispatch (service : Service) (surroundings : Surroundings) : Handler :=
  fun instruments request =>
    match Routing.destination service.routes request with
    | .endpoint endpoint => service.serve surroundings endpoint instruments request
    | .wrongMethod route =>
      (instruments, .quiet (.ofResponse ((remark 405 "Method Not Allowed").map
        (·.addHeaders [("allow", surroundings.pages.listing route.methods)]))))
    | .elsewhere path => (instruments, .quiet (.ofResponse (redirect request path)))
    | .nowhere => (instruments, .quiet (.ofResponse (remark 404 "Not Found")))
    | .unreadable fault => (instruments, .quiet (.error (.fault fault)))

end Service

end FleetGate
