import FleetGate.Proofs.Service.Routes
import FleetGate.Service.Handle

/-!
# The layers of the service

An authentication layer is transparent to the requests that its guard does not cover, and a request
that it hands on still has its path. Two layers whose guards never meet therefore commute
(`AuthLayer.protect_comm`), and those of a service are of that kind.

Requests that no guard covers may show any credentials or none. `Handler.IsOpen` says that a handler
asks no store for them and does not look at the credential lines of their headers; it holds of the
endpoints, and every layer in front of them keeps it.
-/

namespace FleetGate

namespace Headers

/-- The header lines that anybody may look at. -/
def openLines (headers : Headers) : Headers :=
  headers.filter (·.1 ≠ AuthLayer.credentialHeader)

theorem find_openLines {name : Text} (isOpen : name ≠ AuthLayer.credentialHeader)
    (headers : Headers) : Entries.find name (openLines headers) = Entries.find name headers := by
  induction headers with
  | nil => rfl
  | cons line rest ih =>
      rcases line with ⟨own, value⟩
      unfold openLines at ih ⊢
      by_cases credential : own = AuthLayer.credentialHeader
      · have other : own ≠ name := fun same => isOpen (same.symm.trans credential)
        rw [List.filter_cons_of_neg (by simpa using credential), ih, Entries.find, if_neg other]
      · rw [List.filter_cons_of_pos (by simpa using credential), Entries.find, Entries.find, ih]

end Headers

namespace Request

theorem header?_of_openLines {request : Request} {headers : Headers}
    (same : Headers.openLines headers = Headers.openLines request.headers) {name : Text}
    (isOpen : name ≠ AuthLayer.credentialHeader) :
    header? { request with headers := headers } name = request.header? name := by
  rw [header?, header?, ← Headers.find_openLines isOpen, same, Headers.find_openLines isOpen]

end Request

namespace AuthLayer

variable {layer other : AuthLayer} {now : Int} {inner : Handler} {instruments : Instruments}
  {request called : Request}

theorem protect_of_not_covers (uncovered : layer.covers request = false) :
    layer.protect now inner instruments request = inner instruments request := by
  simp [protect, handle, uncovered, Traced.after]

/-- A layer hands a request on with another state at most. -/
theorem exists_state_of_forward (forwards : (layer.handle now request).result = .forward called) :
    ∃ state, called = { request with state := state } := by
  unfold handle at forwards
  split at forwards
  · unfold authenticate at forwards
    dsimp only at forwards
    split at forwards
    · split at forwards
      · cases forwards
      · cases forwards
        exact ⟨_, rfl⟩
    · split at forwards <;> cases forwards
    · cases forwards
  · cases forwards
    exact ⟨request.state, rfl⟩

theorem covers_of_forward (forwards : (layer.handle now request).result = .forward called)
    (other : AuthLayer) : other.covers called = other.covers request := by
  rcases exists_state_of_forward forwards with ⟨state, rfl⟩
  rfl

/-- A layer behind another one is transparent to what its own guard does not cover. -/
theorem protect_protect_of_not_covers (uncovered : layer.covers request = false) :
    other.protect now (layer.protect now inner) instruments request =
      other.protect now inner instruments request := by
  unfold protect
  cases verdict : (other.handle now request).result with
  | forward called =>
      have still : layer.covers called = false := by
        rw [covers_of_forward verdict, uncovered]
      have transparent := @protect_of_not_covers layer now inner instruments called still
      unfold protect at transparent
      simp only [verdict, transparent]
  | respond response => simp only [verdict]
  | raise raised => simp only [verdict]

/-- Layers whose guards cover no path in common commute. -/
theorem protect_comm
    (disjoint : ∀ request, layer.covers request = true → other.covers request = false) :
    layer.protect now (other.protect now inner) = other.protect now (layer.protect now inner) := by
  funext instruments request
  by_cases covered : layer.covers request = true
  · have uncovered := disjoint request covered
    rw [protect_protect_of_not_covers uncovered, protect_of_not_covers uncovered]
  · have uncovered : layer.covers request = false := by simpa using covered
    rw [protect_protect_of_not_covers uncovered, protect_of_not_covers uncovered]

end AuthLayer

namespace Cors

variable {request : Request} {headers : Headers}

theorem originLines_of_openLines
    (same : Headers.openLines headers = Headers.openLines request.headers) :
    originLines { request with headers := headers } = originLines request := by
  unfold originLines
  rw [Request.header?_of_openLines same (by decide)]

theorem question?_of_openLines
    (same : Headers.openLines headers = Headers.openLines request.headers) :
    question? { request with headers := headers } = question? request := by
  unfold question?
  rw [Request.header?_of_openLines same (by decide), Request.header?_of_openLines same (by decide)]

theorem answer_of_openLines
    (same : Headers.openLines headers = Headers.openLines request.headers) (method : Text) :
    answer { request with headers := headers } method = answer request method := by
  unfold answer answerLines refusals
  rw [originLines_of_openLines same, Request.header?_of_openLines same (by decide),
    Request.header?_of_openLines same (by decide)]

end Cors

/-- A handler asks no store for a request to a path, and does not look at its credentials. -/
def Handler.IsOpen (handler : Handler) (path : Text) : Prop :=
  ∀ instruments request, request.path = path →
    (handler instruments request).2.calls = [] ∧
      ∀ headers, Headers.openLines headers = Headers.openLines request.headers →
        handler instruments { request with headers := headers } = handler instruments request

namespace Handler

variable {handler : Handler} {path : Text}

theorem isOpen_mapOutcome (change : Request → Outcome → Outcome) (isOpen : handler.IsOpen path)
    (same : ∀ request headers, Headers.openLines headers = Headers.openLines request.headers →
      change { request with headers := headers } = change request) :
    (handler.mapOutcome change).IsOpen path := by
  intro instruments request onPath
  rcases isOpen instruments request onPath with ⟨quiet, blind⟩
  refine ⟨quiet, fun headers agree => ?_⟩
  simp only [mapOutcome, blind headers agree, same request headers agree]

theorem isOpen_measure {route : Request → Except Fault Text} (isOpen : handler.IsOpen path)
    (same : ∀ request headers, route { request with headers := headers } = route request) :
    (Counting.measure route handler).IsOpen path := by
  intro instruments request onPath
  have label_same (headers : Headers) :
      Counting.label? instruments route { request with headers := headers } =
        Counting.label? instruments route request := by
    unfold Counting.label?
    rw [same request headers]
    rfl
  unfold Counting.measure
  split
  · rcases isOpen instruments request onPath with ⟨quiet, blind⟩
    exact ⟨quiet, fun headers agree => by simp only [blind headers agree]⟩
  · rcases counted : Counting.label? instruments route request with fault | (_ | label)
    · exact ⟨rfl, fun headers _ => by simp only [label_same, counted]⟩
    · rcases isOpen instruments request onPath with ⟨quiet, blind⟩
      refine ⟨quiet, fun headers agree => ?_⟩
      simp only [label_same, counted, blind headers agree]
    · rcases isOpen (Counting.start instruments label).2 request onPath with ⟨quiet, blind⟩
      refine ⟨quiet, fun headers agree => ?_⟩
      simp only [label_same, counted, blind headers agree]

theorem isOpen_share (isOpen : handler.IsOpen path) : (Cors.share handler).IsOpen path := by
  intro instruments request onPath
  unfold Cors.share
  cases asked : Cors.question? request with
  | some method =>
      refine ⟨rfl, fun headers agree => ?_⟩
      simp only [Cors.question?_of_openLines agree, asked, Cors.answer_of_openLines agree]
  | none =>
      have shared := isOpen_mapOutcome (fun request => .map (·.addHeaders (Cors.lines request)))
        isOpen fun request headers agree => by
          simp only [Cors.lines, Cors.originLines_of_openLines agree]
      rcases shared instruments request onPath with ⟨quiet, blind⟩
      refine ⟨quiet, fun headers agree => ?_⟩
      simp only [Cors.question?_of_openLines agree, asked, blind headers agree]

end Handler

namespace Service

variable {service : Service} {surroundings : Surroundings}

theorem calls_metrics (service : Service) (surroundings : Surroundings)
    (instruments : Instruments) : (service.metrics surroundings instruments).2.calls = [] := by
  unfold metrics
  split
  · rfl
  · split <;> rfl

theorem isOpen_serve (service : Service) (surroundings : Surroundings) (endpoint : Endpoint)
    (path : Text) : (service.serve surroundings endpoint).IsOpen path := by
  intro instruments request _
  cases endpoint with
  | metrics => exact ⟨calls_metrics service surroundings instruments, fun _ _ => rfl⟩
  | _ => exact ⟨rfl, fun _ _ => rfl⟩

theorem isOpen_dispatch (service : Service) (surroundings : Surroundings) (path : Text) :
    (service.dispatch surroundings).IsOpen path := by
  intro instruments request _
  have destination_same (headers : Headers) :
      Routing.destination service.routes { request with headers := headers } =
        Routing.destination service.routes request := rfl
  unfold dispatch
  cases goes : Routing.destination service.routes request with
  | endpoint endpoint =>
      rcases isOpen_serve service surroundings endpoint _ instruments request rfl with
        ⟨quiet, blind⟩
      exact ⟨quiet, fun headers agree => by simp only [destination_same, goes, blind _ agree]⟩
  | wrongMethod route => exact ⟨rfl, fun headers _ => by simp only [destination_same, goes]⟩
  | elsewhere path =>
      refine ⟨rfl, fun headers agree => ?_⟩
      have host_same : Request.host { request with headers := headers } = request.host := by
        unfold Request.host
        rw [Request.header?_of_openLines agree (by decide)]
      simp only [destination_same, goes, redirect, Request.urlAt, Request.queryText, host_same]
  | nowhere => exact ⟨rfl, fun headers _ => by simp only [destination_same, goes]⟩
  | unreadable fault => exact ⟨rfl, fun headers _ => by simp only [destination_same, goes]⟩

theorem isOpen_endpoints (service : Service) (surroundings : Surroundings) (path : Text) :
    (service.endpoints surroundings).IsOpen path :=
  Handler.isOpen_mapOutcome _ (isOpen_dispatch service surroundings path) fun _ _ _ => rfl

theorem isOpen_protect {inner : Handler} {path : Text} (isOpen : inner.IsOpen path)
    (uncovered : ∀ kind, (service.layer surroundings.database kind).guard.covers path = false)
    (kinds : List PrincipalKind) : (service.protect surroundings inner kinds).IsOpen path := by
  induction kinds with
  | nil => exact isOpen
  | cons kind rest ih =>
      intro instruments request onPath
      have transparent (request : Request) (onPath : request.path = path) :
          service.protect surroundings inner (kind :: rest) instruments request =
            service.protect surroundings inner rest instruments request := by
        refine AuthLayer.protect_of_not_covers ?_
        rw [AuthLayer.covers, onPath, uncovered, Bool.and_false]
      rw [transparent request onPath]
      rcases ih instruments request onPath with ⟨quiet, blind⟩
      refine ⟨quiet, fun headers agree => ?_⟩
      rw [← blind headers agree]
      exact transparent { request with headers := headers } onPath

/-- All layers with the endpoints behind them, with the authentication layers for some kinds in
their order from the outside. -/
def layersOf (service : Service) (kinds : List PrincipalKind) (surroundings : Surroundings) :
    Handler :=
  Counting.measure (Routing.label service.routes)
    (Cors.share (service.protect surroundings (service.endpoints surroundings) kinds))

/-- Handles a request with the authentication layers for some kinds. -/
def handleBehind (service : Service) (kinds : List PrincipalKind) (surroundings : Surroundings)
    (instruments : Instruments) (request : Request) : Instruments × Traced Conclusion :=
  if request.isHttp then
    let (after, step) := service.layersOf kinds surroundings instruments request
    (after, conclude step)
  else (instruments, .quiet ⟨none, none⟩)

theorem handleBehind_guarded (service : Service) :
    service.handleBehind guarded = service.handle := rfl

theorem calls_conclude (step : Traced Outcome) : (conclude step).calls = step.calls := by
  unfold conclude
  split
  · split <;> rfl
  all_goals rfl

/-- Authentication layers may stand in any order. -/
theorem protect_perm {kinds others : List PrincipalKind} (reordered : kinds.Perm others)
    (service : Service) (surroundings : Surroundings) (inner : Handler) :
    service.protect surroundings inner kinds = service.protect surroundings inner others := by
  induction reordered with
  | nil => rfl
  | cons kind _ ih => simp only [protect, ih]
  | swap first second rest =>
      -- A kind may occur twice in a list; its guard meets itself, but there is nothing to swap.
      by_cases same : first = second
      · rw [same]
      · refine AuthLayer.protect_comm fun request covered => ?_
        simp only [AuthLayer.covers, Bool.and_eq_true, Bool.and_eq_false_iff] at covered ⊢
        refine Or.inr (Bool.eq_false_iff.2 fun coveredOther => same ?_)
        exact kind_eq_of_covers coveredOther covered.2
  | trans _ _ ih ihOther => rw [ih, ihOther]

theorem handle_isOpen {path : Text} (surroundings : Surroundings)
    (uncovered : ∀ kind, (service.layer surroundings.database kind).guard.covers path = false)
    (instruments : Instruments) (request : Request) (onPath : request.path = path) :
    (service.handle surroundings instruments request).2.calls = [] ∧
      ∀ headers, Headers.openLines headers = Headers.openLines request.headers →
        service.handle surroundings instruments { request with headers := headers } =
          service.handle surroundings instruments request := by
  have isOpen : (service.layers surroundings).IsOpen path :=
    Handler.isOpen_measure
      (Handler.isOpen_share (isOpen_protect (isOpen_endpoints service surroundings path) uncovered
        guarded)) fun _ _ => rfl
  rcases isOpen instruments request onPath with ⟨quiet, blind⟩
  unfold handle
  split
  · refine ⟨?_, fun headers agree => by simp only [blind headers agree]⟩
    rw [calls_conclude]
    exact quiet
  · exact ⟨rfl, fun _ _ => rfl⟩

/-- At most one authentication layer guards a path. Below a prefix without parameters, a path that a
route takes is guarded by the layer of a kind exactly when the route shows the profile of that kind,
provided that no root path stands between what the guards and the routes look at. The layers may be
exchanged, and a request that none of them guards is answered without a lookup and whatever its
credentials. -/
theorem guards_follow_routes (service : Service) (surroundings : Surroundings)
    (plain : Template.parameters service.settings.apiPrefix = []) :
    (∀ path kind other,
      (service.layer surroundings.database kind).guard.covers path = true →
        (service.layer surroundings.database other).guard.covers path = true → kind = other) ∧
      (∀ request : Request, request.routePath = request.path →
        ∀ route ∈ service.routes, route.takesPath request.routePath = true →
          ∀ kind, (service.layer surroundings.database kind).guard.covers request.path = true ↔
            route.endpoint = .profile kind) ∧
      (∀ kinds, kinds.Perm guarded →
        service.handleBehind kinds surroundings = service.handle surroundings) ∧
      ∀ instruments request,
        (∀ kind, (service.layer surroundings.database kind).guard.covers request.path = false) →
          (service.handle surroundings instruments request).2.calls = [] ∧
            ∀ headers, Headers.openLines headers = Headers.openLines request.headers →
              service.handle surroundings instruments { request with headers := headers } =
                service.handle surroundings instruments request := by
  refine ⟨fun path kind other => kind_eq_of_covers, ?_, fun kinds reordered => ?_, ?_⟩
  · intro request direct route listed taken kind
    rw [direct] at taken
    exact guard_covers_iff plain listed taken kind
  · rw [← handleBehind_guarded]
    funext instruments request
    simp only [handleBehind, layersOf, protect_perm reordered]
  · intro instruments request uncovered
    exact handle_isOpen surroundings uncovered instruments request rfl

/-- A service below `/api/v1` whose stores find the same for everybody. -/
def sample (answer : StoreAnswer) : Service :=
  ⟨⟨"/api/v1", "Dispatch", false, [], true, [], some "s", false, false, "INFO"⟩, "s",
    .own (.constant answer), .own (.constant answer), standardContext⟩

/-- A connection on which nothing goes wrong. -/
def smooth : Connection := ⟨.sqlite, .ok none, ⟨none, none, none⟩, true⟩

/-- Pages that have nothing to say. -/
def blankPages : Pages := ⟨fun _ _ => Response.ofText 200 Response.plainText [], false⟩

/-- A moment at which nothing is wrong. -/
def calm : Surroundings := ⟨0, .bare, false, smooth, blankPages⟩

/-- A watch that shows how often it has been read. -/
def freshWatch : Stopwatch := ⟨Float.ofNat, 0⟩

/-- Instruments of a service without metrics. -/
def unmeasured : Instruments := ⟨none, freshWatch⟩

/-- Instruments that have measured nothing yet. -/
def gauged : Instruments := ⟨some .empty, freshWatch⟩

/-- A request for what stands at a path. -/
def getRequest (path : Text) (headers : Headers) : Request :=
  ⟨"server", true, "GET", [], path, [], headers, none⟩

/-- A request for the health of a service. -/
def healthRequest (headers : Headers) : Request := getRequest "/api/v1/health" headers

/-- A request of a driver for its profile. -/
def driverRequest (headers : Headers) : Request := getRequest "/api/v1/drivers/me" headers

/-- A request of a driver without credentials for its profile, below a root path. -/
def mountedRequest : Request :=
  { getRequest "/x/api/v1/drivers/me" [] with rootPath := "/x" }

theorem sample_guards :
    ((sample .absent).layer calm.database .driver).guard.covers (driverRequest []).path = true ∧
      (sample .absent).handleBehind [.driver, .user] calm = (sample .absent).handle calm ∧
      ((sample .absent).handle calm unmeasured (healthRequest [])).2.calls = [] ∧
      (sample .absent).handle calm unmeasured (healthRequest [("authorization", "Bearer x")]) =
        (sample .absent).handle calm unmeasured (healthRequest []) := by
  have guards := guards_follow_routes (sample .absent) calm (by decide)
  rcases guards with ⟨_, follow, exchange, isOpen⟩
  have uncovered (kind : PrincipalKind) :
      ((sample .absent).layer calm.database kind).guard.covers (healthRequest []).path = false := by
    cases kind <;> decide
  rcases isOpen unmeasured (healthRequest []) uncovered with ⟨quiet, blind⟩
  refine ⟨?_, exchange _ (by decide), quiet, blind _ (by decide)⟩
  have listed := Routing.route_mem "/api/v1" (.profile .driver)
  exact (follow (driverRequest []) rfl _ listed (by decide) .driver).2 rfl

/-- The routes look at what is left of the path without the root path, the guards at all of it. -/
theorem mountedRequest_unguarded :
    Routing.check (sample .absent).settings.apiPrefix = .ok () ∧
      Template.parameters (sample .absent).settings.apiPrefix = [] ∧
      Routing.destination (sample .absent).routes mountedRequest =
        .endpoint (.profile .driver) ∧
      ∀ kind,
        ((sample .absent).layer calm.database kind).guard.covers mountedRequest.path = false := by
  have plain : Template.parameters (sample .absent).settings.apiPrefix = [] := by decide
  refine ⟨Routing.check_of_plain rfl plain, plain, ?_, fun kind => by cases kind <;> decide⟩
  change Routing.destination (Routing.routes "/api/v1") mountedRequest = _
  decide

end Service

end FleetGate
