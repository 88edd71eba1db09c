import FleetGate.Proofs.Auth.Admission
import FleetGate.Proofs.Metrics.Counting
import FleetGate.Proofs.Service.Layers
import FleetGate.Proofs.Service.ProfileBody

/-!
# Who sees a profile

A request that goes to the profile of a kind has come through the authentication layer of that kind
and through no other, since the guards follow the routes. What becomes of it is
`Service.profileOutcome`: the layer answers it itself, or the endpoint finds in the context what the
layer has put there (`Service.profile_withContext`). All layers further out only add header lines.

A profile is therefore shown exactly for the principals that the layer admits with a record of the
right kind; a record of another kind gets through the layer, but not past the endpoint. What a
client reads in its body is the principal and the account claim (`Service.ShowsProfile`).
-/

namespace FleetGate

namespace Response

variable {status : Status} {response : Response}

theorem parts_of_ofText {mediaType body : Text}
    (made : ofText status mediaType body = .ok response) :
    response.status = status ∧ response.body = body ∧ response.trailing = none := by
  unfold ofText at made
  split at made
  · cases made
  · cases made
    exact ⟨rfl, rfl, rfl⟩

theorem parts_of_ofJson {value : Json} (made : ofJson status value = .ok response) :
    response.status = status ∧ response.body = value.write .compact ∧
      response.trailing = none := by
  unfold ofJson at made
  split at made
  · exact parts_of_ofText made
  · cases made

theorem parts_of_ofServiceError {error : ServiceError}
    (made : ofServiceError error = .ok response) :
    Status.ofJson error.status = .ok response.status ∧
      response.body = error.payload.write .compact ∧ response.trailing = none := by
  unfold ofServiceError ofJsonUnder at made
  split at made
  · cases made
  · cases made
  · rename_i own _ counts
    rcases parts_of_ofJson made with ⟨same, parts⟩
    exact ⟨by rw [counts, same], parts⟩

end Response

namespace Context

variable {context base : Context} {kind : PrincipalKind} {principal : Principal}
  {record identifier account : Value}

theorem principal_attach : (base.attach record identifier account).principal = record := by
  simp [Context.principal, valueOf, get?_attach]

theorem account_attach : (base.attach record identifier account).account = account := by
  have principal_ne : accountKey ≠ principalKey := by decide
  have identifier_ne : accountKey ≠ identifierKey := by decide
  simp [Context.account, valueOf, get?_attach, principal_ne, identifier_ne]

/-- The message about something in the context that is no principal of a kind. -/
def wrongRecord (kind : PrincipalKind) : Text :=
  "invalid " ++ Text.ofString (Principal.recordName kind) ++ Text.ofString " type in context"

theorem require_eq_ok (held : context.principal = .principal principal) :
    context.require principal.kind = .ok principal := by
  cases principal <;> simp only [require, requireDriver, requireUser, Principal.kind, held] <;> rfl

theorem require_of_other
    (other : ∀ principal, context.principal = .principal principal → principal.kind ≠ kind) :
    context.require kind = .error (context.wrongPrincipal kind) := by
  cases kind with
  | driver =>
      simp only [require, requireDriver]
      split
      · rename_i own held
        exact absurd rfl (other _ held)
      · rfl
  | user =>
      simp only [require, requireUser]
      split
      · rename_i own held
        exact absurd rfl (other _ held)
      · rfl

theorem authorized_of_kind (held : context.principal = .principal principal)
    (ofKind : principal.kind = kind) : context.authorized kind = .ok principal := by
  rw [authorized, ← ofKind, require_eq_ok held]

theorem authorized_of_other (something : context.principal.isSomething = true)
    (other : ∀ principal, context.principal = .principal principal → principal.kind ≠ kind) :
    context.authorized kind = .error (.unauthorized (.string (wrongRecord kind))) := by
  simp only [authorized, require_of_other other, wrongPrincipal, isAuthenticated, something,
    if_true]
  rfl

end Context

namespace AuthLayer

variable {layer : AuthLayer} {now : Int} {request called : Request}

theorem exists_base_of_forward (covered : layer.covers request = true)
    (forward : (layer.handle now request).result = .forward called) :
    ∃ base, RequestState.base (request.state.getD []) = .ok base := by
  cases based : RequestState.base (request.state.getD []) with
  | ok base => exact ⟨base, rfl⟩
  | error json =>
      rcases exists_context_of_forward covered forward with ⟨context, succeeded⟩
      rw [handle_of_brokenBase covered based succeeded] at forward
      cases forward

end AuthLayer

namespace Service

variable {service : Service} {surroundings : Surroundings} {instruments : Instruments}
  {request : Request} {kind : PrincipalKind}

/-- The endpoint for a profile works on the context that the layer has put in its place. -/
theorem profile_withContext {context : Context} (standard : service.context = standardContext)
    (authenticated : context.isAuthenticated = true) :
    service.profile kind (AuthLayer.withContext request context) =
      match context.authorized kind with
      | .error error => .error (.service error)
      | .ok principal =>
        .ofResponse (Response.ofRecord 200 (profileBody kind principal context.account)) := by
  have found : RequestState.authenticated
      ((AuthLayer.withContext request context).state.getD []) = .ok context := by
    simp [AuthLayer.withContext, RequestState.authenticated, authenticated]
  have taken : service.context ((AuthLayer.withContext request context).state.getD []) =
      .ok context := by
    simp only [standard, standardContext, found, Except.mapError]
  cases decided : context.authorized kind with
  | error error => simp only [profile, taken, decided]
  | ok principal => simp only [profile, taken, decided]

/-- What becomes of a request for the profile of a kind behind all layers that only count it or add
header lines. -/
def profileOutcome (service : Service) (surroundings : Surroundings) (kind : PrincipalKind)
    (request : Request) : Outcome :=
  match ((service.layer surroundings.database kind).handle surroundings.now request).result with
  | .forward called => answerErrors service.settings.legacyErrorShape (service.profile kind called)
  | .respond response => .ok response
  | .raise raised => .error raised

theorem exists_route_of_destination {routes : List Route} {endpoint : Endpoint}
    (goes : Routing.destination routes request = .endpoint endpoint) :
    ∃ route ∈ routes, route.takesPath request.routePath = true ∧ route.endpoint = endpoint ∧
      request.method ∈ route.methods := by
  unfold Routing.destination Routing.readableDestination at goes
  split at goes
  · cases goes
  split at goes
  · rename_i route found
    split at goes
    · rename_i taken
      cases goes
      simp only [Route.takes, Bool.and_eq_true, List.contains_iff_mem] at taken
      exact ⟨route, (mem_of_route? found).1, taken.1, rfl, taken.2⟩
    · cases goes
  · split at goes
    · cases goes
    · split at goes <;> cases goes

theorem label_of_destination {routes : List Route} {endpoint : Endpoint}
    (goes : Routing.destination routes request = .endpoint endpoint) :
    Routing.label routes request = .ok (Routing.template routes request) := by
  unfold Routing.destination at goes
  split at goes
  · cases goes
  · rename_i readable
    simp only [Routing.label, readable]

/-- The layer of a kind guards what goes to the profile of the kind, and no other layer does. -/
theorem covers_of_profile (plain : Template.parameters service.settings.apiPrefix = [])
    (isHttp : request.isHttp = true) (direct : request.routePath = request.path)
    (goes : Routing.destination service.routes request = .endpoint (.profile kind))
    (surroundings : Surroundings) (other : PrincipalKind) :
    (service.layer surroundings.database other).covers request = true ↔ other = kind := by
  rcases exists_route_of_destination goes with ⟨route, listed, taken, shows, _⟩
  rw [direct] at taken
  rw [AuthLayer.covers, isHttp, Bool.true_and, guard_layer,
    guard_covers_iff plain listed taken other, shows, Endpoint.profile.injEq, eq_comm]

/-- A request that only one layer guards meets that layer alone. -/
theorem protect_guarded {inner : Handler} (kind : PrincipalKind)
    (alone : ∀ other, other ≠ kind →
      (service.layer surroundings.database other).covers request = false) :
    service.protect surroundings inner guarded instruments request =
      (service.layer surroundings.database kind).protect surroundings.now inner instruments
        request := by
  cases kind with
  | driver => exact AuthLayer.protect_of_not_covers (alone .user (by decide))
  | user => exact AuthLayer.protect_protect_of_not_covers (alone .driver (by decide))

theorem endpoints_of_profile
    (goes : Routing.destination service.routes request = .endpoint (.profile kind)) :
    service.endpoints surroundings instruments request =
      (instruments, .quiet (answerErrors service.settings.legacyErrorShape
        (service.profile kind request))) := by
  simp only [endpoints, Handler.mapOutcome, dispatch, goes, serve, Handler.ofOutcome]
  rfl

/-- Behind the layers that count requests and share them, the outcome is the one of the layer of
the kind and the endpoint. -/
theorem protect_profile (plain : Template.parameters service.settings.apiPrefix = [])
    (isHttp : request.isHttp = true) (direct : request.routePath = request.path)
    (goes : Routing.destination service.routes request = .endpoint (.profile kind))
    (surroundings : Surroundings) (instruments : Instruments) :
    (service.protect surroundings (service.endpoints surroundings) guarded instruments
      request).2.result = service.profileOutcome surroundings kind request := by
  have covers_iff := covers_of_profile plain isHttp direct goes surroundings
  rw [protect_guarded kind fun other differs =>
    Bool.eq_false_iff.2 fun covered => differs ((covers_iff other).1 covered)]
  unfold profileOutcome AuthLayer.protect
  cases verdict : ((service.layer surroundings.database kind).handle surroundings.now
      request).result with
  | forward called =>
      rcases AuthLayer.exists_state_of_forward verdict with ⟨state, rfl⟩
      have still : Routing.destination service.routes { request with state := state } =
          .endpoint (.profile kind) := goes
      simp only [verdict, endpoints_of_profile still]
      rfl
  | respond response => simp only [verdict]; rfl
  | raise raised => simp only [verdict]; rfl

/-- Counting a request changes nothing about its outcome, unless the handler is cancelled or the URL
of the request cannot be read. -/
theorem measure_result {route : Request → Except Fault Text} {inner : Handler} {template : Text}
    {outcome : Outcome} (isHttp : request.isHttp = true)
    (read : instruments.collector = none ∨ ∃ query, request.queryText = .ok query)
    (told : route request = .ok template)
    (ends : ∀ instruments, (inner instruments request).2.result = outcome) :
    (Counting.measure route inner instruments request).2.result = Counting.settled outcome := by
  unfold Counting.measure
  simp only [isHttp]
  rcases counted : Counting.label? instruments route request with fault | (_ | label)
  · rcases Counting.exists_fault_of_untold counted with ⟨isOn, unread | untold⟩
    · rcases read with isOff | ⟨query, read⟩
      · simp [isOff] at isOn
      · rw [read] at unread
        cases unread
    · rw [told] at untold
      cases untold
  · simp only [Traced.map, ← ends instruments]
    rfl
  · simp only [Traced.map, Traced.addLogs, ← ends (Counting.start instruments label).2]
    rfl

theorem question?_of_profile
    (goes : Routing.destination service.routes request = .endpoint (.profile kind)) :
    Cors.question? request = none := by
  rcases exists_route_of_destination goes with ⟨route, listed, _, shows, gets⟩
  have methods : route.methods = [Text.ofString "GET"] := by
    rw [Routing.eq_route_of_mem listed, shows]
    rfl
  rw [methods, List.mem_singleton] at gets
  have other : (Text.ofString "GET" == Cors.askingMethod) = false := by decide
  simp [Cors.question?, gets, other]

theorem handle_profile (plain : Template.parameters service.settings.apiPrefix = [])
    (isHttp : request.isHttp = true) (direct : request.routePath = request.path)
    (read : instruments.collector = none ∨ ∃ query, request.queryText = .ok query)
    (goes : Routing.destination service.routes request = .endpoint (.profile kind))
    (surroundings : Surroundings) :
    ∃ step, (service.handle surroundings instruments request).2 = conclude step ∧
      step.result = Counting.settled ((service.profileOutcome surroundings kind request).map
        (·.addHeaders (Cors.lines request))) := by
  refine ⟨(service.layers surroundings instruments request).2, ?_, ?_⟩
  · simp only [handle, isHttp, if_true]
  · refine measure_result isHttp read (label_of_destination goes) fun instruments => ?_
    rw [← protect_profile plain isHttp direct goes surroundings instruments]
    simp only [Cors.share, question?_of_profile goes]
    rfl

theorem conclude_of_ok {step : Traced Outcome} {response : Response}
    (ends : step.result = .ok response) (quiet : response.trailing = none) :
    (conclude step).result = ⟨some response, none⟩ := by
  simp only [conclude, ends, quiet, Traced.map]

theorem response_of_conclude {step : Traced Outcome} {response : Response}
    (sent : (conclude step).result.response = some response) :
    step.result = .ok response ∨ response.status = 500 := by
  unfold conclude at sent
  split at sent
  · rename_i own ends
    left
    split at sent
    · cases sent
      exact ends
    · cases sent
      exact ends
  · cases sent
  · right
    simp only [Traced.map, Traced.addLogs] at sent
    cases made : Response.ofServiceError internalError with
    | error fault => simp [made, Except.toOption] at sent
    | ok own =>
        simp only [made, Except.toOption, Option.some.injEq] at sent
        have counts := (Response.parts_of_ofServiceError made).1
        rw [← sent]
        exact (Except.ok.inj counts).symm

theorem handle_of_profileOutcome {response : Response}
    (plain : Template.parameters service.settings.apiPrefix = [])
    (isHttp : request.isHttp = true) (direct : request.routePath = request.path)
    (read : instruments.collector = none ∨ ∃ query, request.queryText = .ok query)
    (goes : Routing.destination service.routes request = .endpoint (.profile kind))
    (ends : service.profileOutcome surroundings kind request = .ok response)
    (quiet : response.trailing = none) :
    (service.handle surroundings instruments request).2.result =
      ⟨some (response.addHeaders (Cors.lines request)), none⟩ := by
  rcases handle_profile plain isHttp direct read goes surroundings with ⟨step, same, outcome⟩
  rw [same]
  refine conclude_of_ok ?_ quiet
  rw [outcome, ends]
  rfl

/-- What nobody expected is answered with an error of the server. -/
theorem exists_response_of_fault {step : Traced Outcome} {fault : Fault}
    (ends : step.result = .error (.fault fault)) :
    ∃ response, (conclude step).result.response = some response ∧ response.status = 500 := by
  simp only [conclude, ends]
  exact ⟨_, rfl, rfl⟩

/-- So is a request whose URL cannot be read. -/
theorem exists_response_of_unread {fault : Fault} (isHttp : request.isHttp = true)
    (isOn : instruments.collector.isSome) (unread : request.queryText = .error fault) :
    ∃ response,
      (service.handle surroundings instruments request).2.result.response = some response ∧
        response.status = 500 := by
  have untold := @Counting.label?_of_unread (Routing.label service.routes) instruments request
    fault isOn (by rw [Request.urlPath, unread]; rfl)
  have refused : service.layers surroundings instruments request =
      (instruments, .quiet (.error (.fault fault))) := Counting.measure_of_untold isHttp untold
  rw [handle, if_pos isHttp, refused]
  exact exists_response_of_fault rfl

theorem exists_profileOutcome_of_handle {response : Response}
    (plain : Template.parameters service.settings.apiPrefix = [])
    (isHttp : request.isHttp = true) (direct : request.routePath = request.path)
    (goes : Routing.destination service.routes request = .endpoint (.profile kind))
    (sent : (service.handle surroundings instruments request).2.result.response = some response)
    (succeeds : response.status = 200) :
    ∃ own, service.profileOutcome surroundings kind request = .ok own ∧ own.status = 200 ∧
      response.body = own.body := by
  have read : instruments.collector = none ∨ ∃ query, request.queryText = .ok query := by
    cases collector : instruments.collector with
    | none => exact Or.inl rfl
    | some collector =>
        cases unread : request.queryText with
        | ok query => exact Or.inr ⟨query, rfl⟩
        | error fault =>
            have isOn : instruments.collector.isSome := by rw [collector]; rfl
            rcases @exists_response_of_unread service surroundings _ _ _ isHttp isOn unread with
              ⟨own, ownSent, failed⟩
            rw [ownSent, Option.some.injEq] at sent
            rw [sent, succeeds] at failed
            cases failed
  rcases handle_profile plain isHttp direct read goes surroundings with ⟨step, same, outcome⟩
  rw [same] at sent
  rcases response_of_conclude sent with ends | failed
  · rw [outcome] at ends
    cases profiled : service.profileOutcome surroundings kind request with
    | ok own =>
        rw [profiled] at ends
        cases ends
        exact ⟨own, rfl, succeeds, rfl⟩
    | error raised =>
        rw [profiled] at ends
        cases raised <;> cases ends
  · rw [succeeds] at failed
    cases failed

/-- A client reads in the response that it is not authorized, and why. -/
theorem exists_unauthorized (kind : PrincipalKind) :
    ∃ response, Response.ofServiceError (.unauthorized (.string (Context.wrongRecord kind))) =
        .ok response ∧ response.status = 401 ∧ response.trailing = none ∧
      response.ReadsAs
        (ServiceError.unauthorized (.string (Context.wrongRecord kind))).payload := by
  have code : Json.IsPlain 0 (.string "unauthorized") := .string (Text.isScalar_ofString _)
  have message : Json.IsPlain 0 (.string (Context.wrongRecord kind)) := by
    refine .string ?_
    rw [Context.wrongRecord, Text.isScalar_append, Text.isScalar_append]
    exact ⟨⟨Text.isScalar_ofString _, Text.isScalar_ofString _⟩, Text.isScalar_ofString _⟩
  have distinct : (["error", "message"] : List Text).Nodup := by decide
  have plain : Json.IsPlain 1
      (.object [("error", .string "unauthorized"),
        ("message", .string (Context.wrongRecord kind))]) := by
    refine .object distinct ?_ ?_ <;> simp [code, message]
  rcases Response.exists_ofJsonUnder 401 (plain.mono (by decide)) with
    ⟨response, made, counts, reads⟩
  refine ⟨response, made, counts, ?_, reads⟩
  exact (@Response.parts_of_ofServiceError response (.unauthorized _) made).2.2

/-- A client reads a profile in the body: the principal, and the account where it is finite. -/
def ShowsProfile (response : Response) (kind : PrincipalKind) (principal : Principal)
    (account : Json) : Prop :=
  ∃ shown, response.ReadsAs (profileBody kind principal (.data shown)) ∧
    (account.allFinite = true → shown = account)

section Admitted

variable {base : Context} {token identifier : Text} {claims : Entries Json} {record : Value}

theorem profileOutcome_of_admits
    (covered : (service.layer surroundings.database kind).covers request = true)
    (based : RequestState.base (request.state.getD []) = .ok base)
    (admits : AuthLayer.Admits (service.layer surroundings.database kind) surroundings.now request
      token claims identifier record) :
    service.profileOutcome surroundings kind request =
      answerErrors service.settings.legacyErrorShape (service.profile kind
        (AuthLayer.withContext request (base.attach record (.data (.string identifier))
          (.data (Pipeline.accountOf claims))))) := by
  have forwards := (AuthLayer.forward_iff covered based).2
    ⟨token, claims, identifier, record, admits, rfl⟩
  simp only [profileOutcome, forwards]

/-- Something else in the place of the context gives the layer away. -/
theorem profileOutcome_of_brokenBase {json : Json}
    (covered : (service.layer surroundings.database kind).covers request = true)
    (foreign : RequestState.base (request.state.getD []) = .error json)
    (admits : AuthLayer.Admits (service.layer surroundings.database kind) surroundings.now request
      token claims identifier record) :
    service.profileOutcome surroundings kind request = .error (AuthLayer.brokenBase json) := by
  have raises := AuthLayer.handle_of_brokenBase covered foreign
    (Pipeline.run_eq_ok_iff.2 ⟨_, _, _, _, admits, rfl⟩)
  simp only [profileOutcome, raises]

/-- The endpoint shows a principal of its kind. -/
theorem profileOutcome_of_kind {principal : Principal}
    (standard : service.context = standardContext)
    (covered : (service.layer surroundings.database kind).covers request = true)
    (based : RequestState.base (request.state.getD []) = .ok base)
    (admits : AuthLayer.Admits (service.layer surroundings.database kind) surroundings.now request
      token claims identifier (.principal principal)) (ofKind : principal.kind = kind) :
    service.profileOutcome surroundings kind request =
      .ofResponse (Response.ofRecord 200
        (profileBody kind principal (.data (Pipeline.accountOf claims)))) := by
  rw [profileOutcome_of_admits covered based admits, profile_withContext standard,
    Context.authorized_of_kind Context.principal_attach ofKind, Context.account_attach]
  · dsimp only
    cases Response.ofRecord 200
      (profileBody kind principal (.data (Pipeline.accountOf claims))) <;> rfl
  · rw [Context.isAuthenticated, Context.principal_attach]
    rfl

/-- The endpoint turns away what is no principal of its kind. -/
theorem profileOutcome_of_other (standard : service.context = standardContext)
    (covered : (service.layer surroundings.database kind).covers request = true)
    (based : RequestState.base (request.state.getD []) = .ok base)
    (admits : AuthLayer.Admits (service.layer surroundings.database kind) surroundings.now request
      token claims identifier record)
    (other : ∀ principal, record = .principal principal → principal.kind ≠ kind) :
    service.profileOutcome surroundings kind request =
      .ofResponse (Response.ofServiceError
        (.unauthorized (.string (Context.wrongRecord kind)))) := by
  rw [profileOutcome_of_admits covered based admits, profile_withContext standard,
    Context.authorized_of_other]
  · rfl
  · rw [Context.principal_attach]
    exact admits.something
  · rw [Context.principal_attach]
    exact other
  · rw [Context.isAuthenticated, Context.principal_attach]
    exact admits.something

end Admitted

/-- A client reads the principal in the response of the endpoint, and what is finite in the account
claim. -/
theorem readsAs_of_admits {principal : Principal} {response : Response}
    (standard : service.context = standardContext)
    (covered : (service.layer surroundings.database kind).covers request = true)
    (based : RequestState.base (request.state.getD []) = .ok base)
    (admits : AuthLayer.Admits (service.layer surroundings.database kind) surroundings.now request
      token claims identifier (.principal principal)) (ofKind : principal.kind = kind)
    (ends : service.profileOutcome surroundings kind request = .ok response) :
    response.ReadsAs
      (profileBody kind principal (.data (Pipeline.accountOf claims).finitePart)) := by
  rw [profileOutcome_of_kind standard covered based admits ofKind] at ends
  cases made : Response.ofRecord 200
      (profileBody kind principal (.data (Pipeline.accountOf claims))) with
  | ok own =>
      rw [made] at ends
      cases ends
      exact readsAs_of_ofRecord_profileBody (Token.isTidy_accountOf admits.verified) made
  | error fault =>
      rw [made] at ends
      cases ends

/-- A principal of the kind is shown, if its record can be written. -/
theorem exists_profile_of_admits {principal : Principal}
    (plain : Template.parameters service.settings.apiPrefix = [])
    (standard : service.context = standardContext) (isHttp : request.isHttp = true)
    (direct : request.routePath = request.path)
    (read : instruments.collector = none ∨ ∃ query, request.queryText = .ok query)
    (goes : Routing.destination service.routes request = .endpoint (.profile kind))
    (covered : (service.layer surroundings.database kind).covers request = true)
    (based : RequestState.base (request.state.getD []) = .ok base)
    (admits : AuthLayer.Admits (service.layer surroundings.database kind) surroundings.now request
      token claims identifier (.principal principal)) (ofKind : principal.kind = kind)
    (fits : (profileBody kind principal (.data (Pipeline.accountOf claims))).recordFlaw? = none) :
    ∃ response,
      (service.handle surroundings instruments request).2.result = ⟨some response, none⟩ ∧
        response.status = 200 ∧
        response.ReadsAs
          (profileBody kind principal (.data (Pipeline.accountOf claims).finitePart)) := by
  rcases exists_ofRecord_profileBody (Token.isTidy_accountOf admits.verified) fits with
    ⟨shown, made, succeeds, quiet⟩
  have ends := profileOutcome_of_kind standard covered based admits ofKind
  rw [made] at ends
  have reads := readsAs_of_admits standard covered based admits ofKind ends
  exact ⟨_, handle_of_profileOutcome plain isHttp direct read goes ends quiet, succeeds, reads⟩

theorem showsProfile_of_readsAs {response : Response} {principal : Principal} {account : Json}
    (reads : response.ReadsAs (profileBody kind principal (.data account.finitePart))) :
    ShowsProfile response kind principal account :=
  ⟨account.finitePart, reads, Json.finitePart_of_allFinite⟩

/-- Nothing but a principal of the kind that the layer admits is answered with success. -/
theorem exists_admits_of_profileOutcome {response : Response}
    (standard : service.context = standardContext)
    (covered : (service.layer surroundings.database kind).covers request = true)
    (ends : service.profileOutcome surroundings kind request = .ok response)
    (succeeds : response.status = 200) :
    ∃ token claims identifier principal,
      AuthLayer.Admits (service.layer surroundings.database kind) surroundings.now request token
          claims identifier (.principal principal) ∧
        principal.kind = kind ∧
        ShowsProfile response kind principal (Pipeline.accountOf claims) := by
  cases verdict : ((service.layer surroundings.database kind).handle surroundings.now
      request).result with
  | forward called =>
      -- The layer puts a context of its own into the state, so that one that was there before
      -- decides nothing here.
      rcases AuthLayer.exists_base_of_forward covered verdict with ⟨base, based⟩
      rcases (AuthLayer.forward_iff covered based).1 verdict with
        ⟨token, claims, identifier, record, admits, _⟩
      by_cases shown : ∃ principal, record = .principal principal ∧ principal.kind = kind
      · rcases shown with ⟨principal, rfl, ofKind⟩
        have reads := readsAs_of_admits standard covered based admits ofKind ends
        exact ⟨token, claims, identifier, principal, admits, ofKind,
          showsProfile_of_readsAs reads⟩
      · have other (principal : Principal) (same : record = .principal principal) :
            principal.kind ≠ kind := fun ofKind => shown ⟨principal, same, ofKind⟩
        rcases exists_unauthorized kind with ⟨own, made, refused, _⟩
        rw [profileOutcome_of_other standard covered based admits other, made] at ends
        cases ends
        rw [succeeds] at refused
        cases refused
  | respond own =>
      rcases AuthLayer.exists_failure_of_respond covered verdict with ⟨failure, made⟩
      simp only [profileOutcome, verdict] at ends
      cases ends
      rw [(Response.parts_of_ofJson made).1] at succeeds
      cases succeeds
  | raise raised =>
      simp only [profileOutcome, verdict] at ends
      cases ends

theorem parts_of_build {settings : Settings} {drivers users : Source}
    {context : RequestState → Except Raised Context}
    (built : Service.build settings drivers users context = .ok service) :
    service.settings = settings ∧ service.context = context := by
  unfold Service.build at built
  split at built
  · cases built
  · cases built
  · split at built
    · cases built
    · cases built
      exact ⟨rfl, rfl⟩

/-- A request for the profile of a kind is answered with success only if the layer of the kind
admits it with a principal of the kind, and then a client reads this principal and the account claim
of the token in the body. What the layer admits without being a principal of the kind is answered as
unauthorized, and a principal of the kind is shown if its record can be written. For that, the URL
must be readable where requests are counted, and there must be room for the context in the state of
the request. All this is about requests whose path the router and the guards see alike. -/
theorem profile_shows_admitted {settings : Settings} {drivers users : Source}
    (built : Service.build settings drivers users standardContext = .ok service)
    (plain : Template.parameters settings.apiPrefix = []) (surroundings : Surroundings)
    (instruments : Instruments) (isHttp : request.isHttp = true)
    (direct : request.routePath = request.path)
    (goes : Routing.destination service.routes request = .endpoint (.profile kind)) :
    (∀ response,
      (service.handle surroundings instruments request).2.result.response = some response →
        response.status = 200 →
          ∃ token claims identifier principal,
            AuthLayer.Admits (service.layer surroundings.database kind) surroundings.now request
                token claims identifier (.principal principal) ∧
              principal.kind = kind ∧
              ShowsProfile response kind principal (Pipeline.accountOf claims)) ∧
      ((instruments.collector = none ∨ ∃ query, request.queryText = .ok query) →
        ∀ base, RequestState.base (request.state.getD []) = .ok base →
        ∀ token claims identifier record,
          AuthLayer.Admits (service.layer surroundings.database kind) surroundings.now request
              token claims identifier record →
            ((∀ principal, record = .principal principal → principal.kind ≠ kind) →
              ∃ response,
                (service.handle surroundings instruments request).2.result =
                    ⟨some response, none⟩ ∧
                  response.status = 401 ∧
                  response.ReadsAs (ServiceError.unauthorized
                    (.string (Context.wrongRecord kind))).payload) ∧
              ∀ principal, record = .principal principal → principal.kind = kind →
                (profileBody kind principal (.data (Pipeline.accountOf claims))).recordFlaw? =
                    none →
                  ∃ response,
                    (service.handle surroundings instruments request).2.result =
                        ⟨some response, none⟩ ∧
                      response.status = 200 ∧
                      ShowsProfile response kind principal (Pipeline.accountOf claims)) := by
  rcases parts_of_build built with ⟨rfl, standard⟩
  have covered : (service.layer surroundings.database kind).covers request = true :=
    (covers_of_profile plain isHttp direct goes surroundings kind).2 rfl
  constructor
  · intro response sent succeeds
    rcases exists_profileOutcome_of_handle plain isHttp direct goes sent succeeds with
      ⟨own, ends, ownSucceeds, body⟩
    rcases exists_admits_of_profileOutcome standard covered ends ownSucceeds with
      ⟨token, claims, identifier, principal, admits, ofKind, shown, reads, same⟩
    exact ⟨token, claims, identifier, principal, admits, ofKind, shown, reads.of_body_eq body,
      same⟩
  · intro read base based token claims identifier record admits
    constructor
    · intro other
      rcases exists_unauthorized kind with ⟨own, made, refused, quiet, reads⟩
      have ends := profileOutcome_of_other standard covered based admits other
      rw [made] at ends
      exact ⟨_, handle_of_profileOutcome plain isHttp direct read goes ends quiet, refused, reads⟩
    · rintro principal rfl ofKind fits
      rcases exists_profile_of_admits plain standard isHttp direct read goes covered based admits
        ofKind fits with ⟨response, sent, succeeds, reads⟩
      exact ⟨response, sent, succeeds, showsProfile_of_readsAs reads⟩

/-- A driver without a car. -/
def sampleDriver : Principal :=
  .driver ⟨"D1", "Ada", [], "7", "ada", [], .kd, .idle, true, true, true,
    ⟨2024, 1, 1, 0, 0, 0, 0, none⟩, ⟨2024, 1, 1, 0, 0, 0, 0, none⟩⟩

/-- A token with a payload, under the secret `s`. -/
def sampleToken (payload : List Char) : Text :=
  Token.mint .hs512 [115] Token.tagHeader payload

/-- A request with this token for the profile of a driver. -/
def profileRequest (payload : List Char) : Request :=
  driverRequest [(AuthLayer.credentialHeader, Token.bearer (sampleToken payload))]

/-- The payload of the driver `D1`. -/
def driverPayload : List Char :=
  "\x7b\"type\":\"driver\",\"driver_id\":\"D1\"\x7d".toList

/-- The payload of the same driver with an account that is too large for a double. -/
def hugePayload : List Char :=
  "\x7b\"type\":\"driver\",\"driver_id\":\"D1\",\"account\":1e999\x7d".toList

/-- Claims of the driver `D1`. -/
def driverClaims (others : Entries Json) : Entries Json :=
  ("type", .string "driver") :: ("driver_id", .string "D1") :: others

theorem read_driverPayload :
    Json.read .values (driverPayload.map .scalar) = .ok (.object (driverClaims [])) := by
  cbv

/-- The account that a payload of the driver `D1` claims, if it is a double. -/
def accountIn? (payload : List Char) : Option Float :=
  match Json.read .values (payload.map .scalar) with
  | .ok (.object [(type, .string kind), (name, .string identifier), (last, .float account)]) =>
    if [type, kind, name, identifier, last] = ["type", "driver", "driver_id", "D1", "account"] then
      some account
    else none
  | _ => none

theorem read_of_accountIn? {payload : List Char} {account : Float}
    (found : accountIn? payload = some account) :
    Json.read .values (payload.map .scalar) =
      .ok (.object (driverClaims [("account", .float account)])) := by
  unfold accountIn? at found
  split at found
  · rename_i type kind name identifier last own isRead
    split at found
    · rename_i same
      cases same
      cases found
      exact isRead
    · cases found
  · cases found

theorem exists_read_hugePayload :
    ∃ account,
      Json.read .values (hugePayload.map .scalar) =
          .ok (.object (driverClaims [("account", .float account)])) ∧
        account.isFinite = false := by
  have test : (accountIn? hugePayload).any (!·.isFinite) = true := by
    decide +kernel
  rcases (Option.any_eq_true _ _).1 test with ⟨account, found, huge⟩
  exact ⟨account, read_of_accountIn? found, by simpa using huge⟩

theorem build_sample (answer : StoreAnswer) :
    Service.build (sample answer).settings (sample answer).drivers (sample answer).users
      standardContext = .ok (sample answer) := by
  have inOrder : Routing.check "/api/v1" = .ok () := Routing.check_of_plain rfl (by decide)
  simp only [Service.build, sample, inOrder]
  rfl

theorem plainPrefix_sample (answer : StoreAnswer) :
    Template.parameters (sample answer).settings.apiPrefix = [] := by
  change Template.parameters "/api/v1" = []
  decide

theorem goes_profileRequest (answer : StoreAnswer) (payload : List Char) :
    Routing.destination (sample answer).routes (profileRequest payload) =
      .endpoint (.profile .driver) := by
  change Routing.destination (Routing.routes "/api/v1") (getRequest "/api/v1/drivers/me" []) = _
  decide

/-- The driver `D1` is admitted as whatever the store of the sample finds. -/
theorem admits_sample {record : Value} {payload : List Char} {others : Entries Json}
    (something : record.isSomething = true)
    (isRead : Json.read .values (payload.map .scalar) = .ok (.object (driverClaims others)))
    (valid : Claims.check 0 (driverClaims others) = .ok ())
    (sameHeaders : request.headers = (profileRequest payload).headers) :
    AuthLayer.Admits ((sample (.found record)).layer calm.database .driver) calm.now request
      (sampleToken payload) (driverClaims others) "D1" record := by
  have presents : Credential.Presents (request.header? AuthLayer.credentialHeader)
      (sampleToken payload) := by
    rw [Request.header?, sameHeaders]
    exact Token.presents_bearer (by simp [sampleToken, Token.mint, Token.mintChars])
      Token.isUnbroken_mint
  have verified : Token.verify 0 "s" (sampleToken payload) = .ok (driverClaims others) :=
    Token.verify_mint Token.isVerbatim_plain Token.read_tagHeader rfl isRead
      (Claims.check_eq_ok_iff.1 valid)
  have named : Entries.find (Text.ofString PrincipalKind.driver.identifierClaim)
      (driverClaims others) = some (.string "D1") := rfl
  exact ⟨⟨presents, verified, rfl, named⟩, ⟨_, rfl, rfl⟩, something⟩

theorem sample_profile_shown :
    (∃ response,
      ((sample (.found (.principal sampleDriver))).handle calm unmeasured
          (profileRequest driverPayload)).2.result = ⟨some response, none⟩ ∧
        response.status = 200 ∧
        ShowsProfile response .driver sampleDriver .null ∧
        ∃ token claims identifier principal,
          AuthLayer.Admits ((sample (.found (.principal sampleDriver))).layer calm.database .driver)
              calm.now (profileRequest driverPayload) token claims identifier
                (.principal principal) ∧
            principal.kind = .driver ∧
            ShowsProfile response .driver principal (Pipeline.accountOf claims)) ∧
      ∃ response,
        ((sample (.found (.data (.bool true)))).handle calm unmeasured
            (profileRequest driverPayload)).2.result = ⟨some response, none⟩ ∧
          response.status = 401 := by
  constructor
  · have shows := profile_shows_admitted (build_sample (.found (.principal sampleDriver)))
      (plainPrefix_sample _) calm unmeasured rfl rfl (goes_profileRequest _ driverPayload)
    rcases shows with ⟨only, becomes⟩
    have admits := @admits_sample (profileRequest driverPayload) (.principal sampleDriver) _ _ rfl
      read_driverPayload rfl rfl
    rcases (becomes (Or.inl rfl) .empty rfl _ _ _ _ admits).2 _ rfl rfl (by decide +kernel) with
      ⟨response, sent, succeeds, shown⟩
    refine ⟨response, sent, succeeds, shown, only response ?_ succeeds⟩
    rw [sent]
  · have shows := profile_shows_admitted (build_sample (.found (.data (.bool true))))
      (plainPrefix_sample _) calm unmeasured rfl rfl (goes_profileRequest _ driverPayload)
    rcases shows with ⟨_, becomes⟩
    have admits := @admits_sample (profileRequest driverPayload) (.data (.bool true)) _ _ rfl
      read_driverPayload rfl rfl
    have other (principal : Principal) (same : Value.data (.bool true) = .principal principal) :
        principal.kind ≠ .driver := by cases same
    rcases (becomes (Or.inl rfl) .empty rfl _ _ _ _ admits).1 other with
      ⟨response, sent, refused, _⟩
    exact ⟨response, sent, refused⟩

/-- The conclusion of a request is an answer under a status. -/
def isAnswered (conclusion : Conclusion) (number : Int) : Bool :=
  match conclusion.response with
  | some ⟨.code own, _, _, _⟩ => own == number
  | _ => false

theorem exists_response_of_isAnswered {conclusion : Conclusion} {number : Int}
    (answered : isAnswered conclusion number = true) :
    ∃ response, conclusion.response = some response ∧ response.status = .code number := by
  unfold isAnswered at answered
  split at answered
  · rename_i own headers body trailing sent
    exact ⟨_, sent, congrArg Status.code (eq_of_beq answered)⟩
  · cases answered

/-- A request without credentials below a root path, with the context of a driver in its state. -/
def carriedRequest : Request :=
  let context := Context.empty.attach (.principal sampleDriver) (.data (.string "D1")) (.data .null)
  { mountedRequest with state := some [(RequestState.contextKey, .context context)] }

/-- A request of the driver with a flag in the place of the context. -/
def crowdedRequest : Request :=
  { profileRequest driverPayload with
    state := some [(RequestState.contextKey, .data (.bool true))] }

/-- A request of the driver with a query that is no text. -/
def garbledRequest : Request :=
  { profileRequest driverPayload with query := [255] }

/-- The request goes to the profile of a driver, the layer admits it with the flag that the store
finds, and still it is answered with an error of the server. -/
def FailsAdmitted (instruments : Instruments) (request : Request) : Prop :=
  let service := sample (.found (.data (.bool true)))
  Routing.destination service.routes request = .endpoint (.profile .driver) ∧
    AuthLayer.Admits (service.layer calm.database .driver) calm.now request
      (sampleToken driverPayload) (driverClaims []) "D1" (.data (.bool true)) ∧
    ∃ response, (service.handle calm instruments request).2.result.response = some response ∧
      response.status = 500

theorem failsAdmitted_crowdedRequest : FailsAdmitted unmeasured crowdedRequest := by
  have admits := @admits_sample crowdedRequest (.data (.bool true)) _ _ rfl read_driverPayload
    rfl rfl
  have goes : Routing.destination (sample (.found (.data (.bool true)))).routes crowdedRequest =
    .endpoint (.profile .driver) := goes_profileRequest _ driverPayload
  have covered := (covers_of_profile (plainPrefix_sample _) rfl rfl goes calm .driver).2 rfl
  have foreign : RequestState.base (crowdedRequest.state.getD []) = .error (.bool true) := rfl
  have raises := profileOutcome_of_brokenBase covered foreign admits
  rcases @handle_profile _ unmeasured _ _ (plainPrefix_sample _) rfl rfl (Or.inl rfl) goes calm with
    ⟨step, same, outcome⟩
  rw [raises] at outcome
  refine ⟨goes, admits, ?_⟩
  rw [same]
  exact exists_response_of_fault outcome

theorem failsAdmitted_garbledRequest : FailsAdmitted gauged garbledRequest :=
  ⟨goes_profileRequest _ driverPayload, admits_sample rfl read_driverPayload rfl rfl,
    exists_response_of_unread rfl rfl rfl⟩

/-- An account that is not finite is not shown. Below a root path a request without credentials is
shown the principal that it carries. With something else in the place of the context, or with a
query that is no text where requests are counted, what the layer admits is not refused. -/
theorem profile_conditions_needed :
    (∃ claims response,
      AuthLayer.Admits ((sample (.found (.principal sampleDriver))).layer calm.database .driver)
          calm.now (profileRequest hugePayload) (sampleToken hugePayload) claims "D1"
            (.principal sampleDriver) ∧
        ((sample (.found (.principal sampleDriver))).handle calm unmeasured
          (profileRequest hugePayload)).2.result = ⟨some response, none⟩ ∧
        response.status = 200 ∧
        ¬response.ReadsAs
          (profileBody .driver sampleDriver (.data (Pipeline.accountOf claims)))) ∧
    (Routing.destination (sample .absent).routes carriedRequest = .endpoint (.profile .driver) ∧
      carriedRequest.header? AuthLayer.credentialHeader = none ∧
      ∃ response,
        ((sample .absent).handle calm unmeasured carriedRequest).2.result.response =
            some response ∧
          response.status = 200) ∧
    FailsAdmitted unmeasured crowdedRequest ∧ FailsAdmitted gauged garbledRequest := by
  refine ⟨?_, ⟨?_, rfl, ?_⟩, failsAdmitted_crowdedRequest, failsAdmitted_garbledRequest⟩
  · rcases exists_read_hugePayload with ⟨account, isRead, huge⟩
    have goes := goes_profileRequest (.found (.principal sampleDriver)) hugePayload
    have admits := @admits_sample (profileRequest hugePayload) (.principal sampleDriver) _ _ rfl
      isRead rfl rfl
    have covered := (covers_of_profile (plainPrefix_sample _) rfl rfl goes calm .driver).2 rfl
    have fits : (profileBody .driver sampleDriver (.data (.float account))).recordFlaw? = none :=
      rfl
    have shows := @exists_profile_of_admits _ calm unmeasured _ _ _ _ _ _ _ (plainPrefix_sample _)
      rfl rfl rfl (Or.inl rfl) goes covered rfl admits rfl fits
    rcases shows with ⟨response, sent, succeeds, reads⟩
    refine ⟨_, response, admits, sent, succeeds, fun readsAll => ?_⟩
    have claimed : Pipeline.accountOf (driverClaims [("account", .float account)]) =
      .float account := rfl
    rw [claimed] at reads readsAll
    have same := reads.unique readsAll
    simp [profileBody, Json.finitePart, huge] at same
  · change Routing.destination (Routing.routes "/api/v1") mountedRequest = _
    decide
  · have test : isAnswered ((sample .absent).handle calm unmeasured carriedRequest).2.result 200 =
        true := by
      decide +kernel
    exact exists_response_of_isAnswered test

end Service

end FleetGate
