import FleetGate.Proofs.Metrics.Labels
import FleetGate.Proofs.Service.Counted
import FleetGate.Proofs.Service.Profile
import FleetGate.Proofs.Service.Search

/-!
# The labels of counted requests

A request is counted under the template of the route that it goes to, or would go to if no layer
stopped it before (`Routing.FallsTo`). The layers behind the counting layer hand a request on with
another state at most (`Handler.HandsOn`), and the search for a route does not look at the state.

So the labels of a collector never grow beyond the templates of the routes and the one label for
requests that no route takes. Every step that touches the collector keeps this, and hence every
sequence of requests, one after the other or overlapping.
-/

namespace FleetGate

namespace Routing

/-- The destination is no route for the path of the request. -/
def Destination.isAway : Destination → Bool
  | elsewhere _ | nowhere | unreadable _ => true
  | endpoint _ | wrongMethod _ => false

/-- Where a request goes, and the label that goes with it: the first route that takes it in full
decides, else the first that takes its path alone, which is for another method. -/
inductive FallsTo (routes : List Route) (request : Request) : Destination → Text → Prop where
  | full {earlier later : List Route} {route : Route} (split : routes = earlier ++ route :: later)
      (first : ∀ other ∈ earlier, other.takes request = false)
      (taken : route.takes request = true) :
      FallsTo routes request (.endpoint route.endpoint) route.template
  | pathOnly {earlier later : List Route} {route : Route}
      (nobody : ∀ other ∈ routes, other.takes request = false)
      (split : routes = earlier ++ route :: later)
      (first : ∀ other ∈ earlier, other.takesPath request.routePath = false)
      (taken : route.takesPath request.routePath = true) :
      FallsTo routes request (.wrongMethod route) route.template
  | stray {destination : Destination}
      (missed : ∀ route ∈ routes, route.takesPath request.routePath = false)
      (isAway : destination.isAway = true) : FallsTo routes request destination unmatched

variable {routes : List Route} {request : Request} {told : Text}

/-- A request goes where its label says. -/
theorem fallsTo_of_label (labelled : label routes request = .ok told) :
    FallsTo routes request (destination routes request) told := by
  have readable : fault? routes request.routePath = none := by
    unfold label at labelled
    split at labelled
    · cases labelled
    · assumption
  rw [label, readable] at labelled
  cases labelled
  rw [destination, readable]
  cases full : routes.find? (·.takes request) with
  | some route =>
      have found : route? routes request = some route := by simp only [route?, full]
      rcases List.find?_eq_some_iff_append.1 full with ⟨taken, earlier, later, split, first⟩
      simp only [template, readableDestination, found, taken, if_true]
      exact .full split (by simpa using first) taken
  | none =>
      have nobody : ∀ other ∈ routes, other.takes request = false := by simpa using full
      cases byPath : routes.find? (·.takesPath request.routePath) with
      | some route =>
          have found : route? routes request = some route := by simp only [route?, full, byPath]
          rcases List.find?_eq_some_iff_append.1 byPath with ⟨taken, earlier, later, split, first⟩
          have wrong := nobody route (by simp [split])
          simp only [template, readableDestination, found, wrong, Bool.false_eq_true, if_false]
          exact .pathOnly nobody split (by simpa using first) taken
      | none =>
          have missed : ∀ route ∈ routes, route.takesPath request.routePath = false := by
            simpa using byPath
          have found : route? routes request = none := by simp only [route?, full, byPath]
          simp only [template, readableDestination, found]
          apply FallsTo.stray missed
          split
          · rfl
          · split <;> rfl

/-- The label for no route goes with no template. -/
theorem FallsTo.eq_unmatched_iff {destination : Destination}
    (falls : FallsTo routes request destination told)
    (named : ∀ route ∈ routes, route.template ≠ unmatched) :
    told = unmatched ↔ ∀ route ∈ routes, route.takesPath request.routePath = false := by
  cases falls with
  | @full earlier later route split first taken =>
      have listed : route ∈ routes := by simp [split]
      rw [Route.takes, Bool.and_eq_true] at taken
      refine iff_of_false (named route listed) fun missed => ?_
      rw [missed route listed] at taken
      cases taken.1
  | @pathOnly earlier later route nobody split first taken =>
      have listed : route ∈ routes := by simp [split]
      refine iff_of_false (named route listed) fun missed => ?_
      rw [missed route listed] at taken
      cases taken
  | stray missed isAway => exact iff_of_true rfl missed

theorem startsWith_of_check {apiPrefix : Text} (formed : check apiPrefix = .ok ()) :
    apiPrefix = [] ∨ ∃ rest, apiPrefix = .scalar '/' :: rest := by
  have prefixFormed : checkPrefix apiPrefix = .ok () := by
    rw [check] at formed
    cases own : checkPrefix apiPrefix with
    | ok _ => rfl
    | error fault =>
        rw [own] at formed
        cases formed
  unfold checkPrefix at prefixFormed
  split at prefixFormed
  · left
    simp_all
  · split at prefixFormed
    · cases prefixFormed
    · rename_i starts
      right
      rw [Bool.not_eq_true', Bool.not_eq_false, Text.startsWith, List.isPrefixOf_iff_prefix]
        at starts
      rcases starts with ⟨rest, rfl⟩
      exact ⟨rest, rfl⟩

/-- A template below a well-formed prefix starts with a slash. -/
theorem exists_template {apiPrefix : Text} {route : Route} (formed : check apiPrefix = .ok ())
    (listed : route ∈ Routing.routes apiPrefix) :
    ∃ rest, route.template = .scalar '/' :: rest := by
  rcases nameOf_plain route.endpoint with ⟨back, named, _⟩
  rw [eq_route_of_mem listed]
  simp only [Routing.route, frontOf, named]
  split
  · rcases startsWith_of_check formed with rfl | ⟨rest, rfl⟩
    · exact ⟨back, rfl⟩
    · exact ⟨rest ++ .scalar '/' :: back, rfl⟩
  · exact ⟨back, rfl⟩

theorem template_ne_unmatched {apiPrefix : Text} {route : Route}
    (formed : check apiPrefix = .ok ()) (listed : route ∈ Routing.routes apiPrefix) :
    route.template ≠ unmatched := by
  rcases exists_template formed listed with ⟨rest, starts⟩
  rw [starts]
  intro same
  have first : some (CodePoint.scalar '/') = unmatched.head? := congrArg List.head? same
  revert first
  decide

end Routing

/-! ## What reaches the router -/

/-- Some layers hand a request on with another state at most, or end it by themselves. -/
def Handler.HandsOn (layers : Handler → Handler) (instruments : Instruments) (request : Request) :
    Prop :=
  (∃ answer, ∀ inner, layers inner instruments request = (instruments, answer)) ∨
    ∃ (state : Option RequestState) (finish : Traced Outcome → Traced Outcome), ∀ inner,
      layers inner instruments request =
        ((inner instruments { request with state := state }).1,
          finish (inner instruments { request with state := state }).2)

namespace Service

variable {service : Service} {surroundings : Surroundings} {request : Request}

/-- The layers between the counting layer and the endpoints. -/
def shielded (service : Service) (surroundings : Surroundings) (inner : Handler) : Handler :=
  Cors.share (service.protect surroundings inner guarded)

theorem handsOn_protect (service : Service) (surroundings : Surroundings)
    (instruments : Instruments) (request : Request) (kinds : List PrincipalKind) :
    Handler.HandsOn (fun inner => service.protect surroundings inner kinds)
      instruments request := by
  induction kinds generalizing request with
  | nil => exact Or.inr ⟨request.state, id, fun _ => rfl⟩
  | cons kind rest ih =>
      unfold Handler.HandsOn at ih ⊢
      simp only [protect, AuthLayer.protect]
      cases verdict : ((service.layer surroundings.database kind).handle surroundings.now
        request).result with
      | respond response => exact Or.inl ⟨_, fun _ => rfl⟩
      | raise raised => exact Or.inl ⟨_, fun _ => rfl⟩
      | forward called =>
          rcases AuthLayer.exists_state_of_forward verdict with ⟨state, rfl⟩
          rcases ih { request with state := state } with ⟨answer, ends⟩ | ⟨later, finish, goes⟩
          · simp only [ends]
            exact Or.inl ⟨_, fun _ => rfl⟩
          · simp only [goes]
            exact Or.inr ⟨later, fun step => Traced.after _ (finish step), fun _ => rfl⟩

theorem handsOn_shielded (service : Service) (surroundings : Surroundings)
    (instruments : Instruments) (request : Request) :
    Handler.HandsOn (service.shielded surroundings) instruments request := by
  unfold Handler.HandsOn shielded Cors.share
  cases Cors.question? request with
  | some method => exact Or.inl ⟨_, fun _ => rfl⟩
  | none =>
      simp only [Handler.mapOutcome]
      rcases handsOn_protect service surroundings instruments request guarded with
        ⟨answer, ends⟩ | ⟨state, finish, goes⟩
      · simp only [ends]
        exact Or.inl ⟨_, fun _ => rfl⟩
      · simp only [goes]
        exact Or.inr ⟨state, fun step => (finish step).map _, fun _ => rfl⟩

end Service

/-! ## The labels of a collector -/

/-- A label for requests is the template of a route, or the one for no route. -/
def Routing.IsKnown (routes : List Route) (told : Text) : Prop :=
  told = unmatched ∨ ∃ route ∈ routes, told = route.template

/-- Labels with no route among them but known ones. -/
def Routing.AreKnown (routes : List Route) (labels : Entries Text) : Prop :=
  ∀ told, (Text.ofString "route", told) ∈ labels → IsKnown routes told

/-- All samples of a collector have known routes among their labels, or none at all. -/
def Collector.KnowsRoutes (collector : Collector) (routes : List Route) : Prop :=
  ∀ sample ∈ collector.samples, Routing.AreKnown routes sample.labels

namespace Routing

variable {routes : List Route} {request : Request} {told : Text}

theorem areKnown_request {label : RequestLabel} :
    AreKnown routes label.labels ↔ IsKnown routes label.route := by
  have differ : ("route" : Text) ≠ "method" := by decide
  simp [AreKnown, RequestLabel.labels, differ]

theorem areKnown_answer {label : AnswerLabel} :
    AreKnown routes label.labels ↔ IsKnown routes label.request.route := by
  have differ : ("route" : Text) ≠ "status_code" := by decide
  have method_differs : ("route" : Text) ≠ "method" := by decide
  simp [AreKnown, AnswerLabel.labels, RequestLabel.labels, differ, method_differs]

theorem areKnown_fleet (fleet : Text) : AreKnown routes (Sample.fleetLabels fleet) := by
  have differ : ("route" : Text) ≠ "fleet" := by decide
  simp [AreKnown, Sample.fleetLabels, differ]

theorem areKnown_component (label : ComponentLabel) : AreKnown routes label.labels := by
  have differ : ("route" : Text) ≠ "component" := by decide
  have service_differs : ("route" : Text) ≠ "service" := by decide
  simp [AreKnown, ComponentLabel.labels, differ, service_differs]

theorem isKnown_of_label (labelled : label routes request = .ok told) : IsKnown routes told := by
  have falls := fallsTo_of_label labelled
  generalize destination routes request = goal at falls
  cases falls with
  | @full earlier later route split first taken => exact Or.inr ⟨route, by simp [split], rfl⟩
  | @pathOnly earlier later route nobody split first taken =>
      exact Or.inr ⟨route, by simp [split], rfl⟩
  | stray missed isAway => exact Or.inl rfl

end Routing

namespace Collector

variable {collector other : Collector} {routes : List Route} {label : RequestLabel}

/-- What is reported about anything but requests has no route among its labels. -/
theorem IsLabelled.sameRequests (labelled : collector.IsLabelled (Routing.AreKnown routes))
    (same : collector.SameRequests other) : other.IsLabelled (Routing.AreKnown routes) where
  requests := by
    rw [same.requests]
    exact labelled.requests
  durations := by
    rw [same.durations]
    exact labelled.durations
  active := by
    rw [same.active]
    exact labelled.active
  online _ _ := Routing.areKnown_fleet _
  health _ _ := Routing.areKnown_component _
  latency _ _ := Routing.areKnown_component _

theorem IsLabelled.started (labelled : collector.IsLabelled (Routing.AreKnown routes))
    (isKnown : Routing.IsKnown routes label.route) :
    (collector.started label).IsLabelled (Routing.AreKnown routes) := by
  have named : MetricEvent.IsLabelled (Routing.AreKnown routes) (.started label) := by
    intro name labels listed
    rw [(Prod.mk.inj (List.mem_singleton.1 listed)).2, Routing.areKnown_request]
    exact isKnown
  exact labelled.apply named

theorem IsLabelled.finished (labelled : collector.IsLabelled (Routing.AreKnown routes))
    (isKnown : Routing.IsKnown routes label.route) (outcome : Outcome) (duration : Float) :
    (collector.finished label outcome duration).IsLabelled (Routing.AreKnown routes) := by
  have ended : (collector.ended label).IsLabelled (Routing.AreKnown routes) := by
    have named : MetricEvent.IsLabelled (Routing.AreKnown routes) (.ended label) := by
      intro name labels listed
      rw [(Prod.mk.inj (List.mem_singleton.1 listed)).2, Routing.areKnown_request]
      exact isKnown
    exact labelled.apply named
  unfold Collector.finished
  split
  · rename_i status _
    have named :
        MetricEvent.IsLabelled (Routing.AreKnown routes) (.recorded label status duration) := by
      intro name labels listed
      simp only [MetricEvent.named, List.mem_cons, Prod.mk.injEq, List.not_mem_nil, or_false]
        at listed
      rcases listed with ⟨_, rfl⟩ | ⟨_, rfl⟩
      · exact Routing.areKnown_answer.2 isKnown
      · exact Routing.areKnown_request.2 isKnown
    exact ended.apply named
  · exact ended

theorem IsLabelled.knowsRoutes (labelled : collector.IsLabelled (Routing.AreKnown routes)) :
    collector.KnowsRoutes routes := by
  intro sample listed told isLabel
  rcases labelled.exists_labels listed with ⟨labels, known, _, same | ⟨bound, bucket⟩⟩
  · rw [same] at isLabel
    exact known told isLabel
  · rw [bucket] at isLabel
    have differ : ("route" : Text) ≠ "le" := by decide
    rcases List.mem_cons.1 isLabel with isBound | isOther
    · exact absurd (Prod.mk.inj isBound).1 differ
    · exact known told isOther

end Collector

/-- The collector is there, and all its labels are known. -/
def Instruments.KnowRoutes (instruments : Instruments) (routes : List Route) : Prop :=
  ∃ collector, instruments.collector = some collector ∧
    collector.IsLabelled (Routing.AreKnown routes)

namespace Instruments.KnowRoutes

variable {instruments other : Instruments} {routes : List Route} {label : RequestLabel}

theorem sameRequests (known : instruments.KnowRoutes routes)
    (same : instruments.SameRequests other) : other.KnowRoutes routes := by
  rcases known with ⟨collector, isOn, labelled⟩
  rcases same.exists_collector isOn with ⟨after, stillOn, sameCounts⟩
  exact ⟨after, stillOn, labelled.sameRequests sameCounts⟩

theorem start (known : instruments.KnowRoutes routes)
    (isKnown : Routing.IsKnown routes label.route) :
    (Counting.start instruments label).2.KnowRoutes routes := by
  rcases known with ⟨collector, isOn, labelled⟩
  refine ⟨collector.started label, ?_, labelled.started isKnown⟩
  rw [Counting.collector_start, isOn, Option.map_some]

theorem finish (known : instruments.KnowRoutes routes)
    (isKnown : Routing.IsKnown routes label.route) (begun : Float) (outcome : Outcome) :
    (Counting.finish instruments label begun outcome).1.KnowRoutes routes := by
  rcases known with ⟨collector, isOn, labelled⟩
  refine ⟨_, ?_, labelled.finished isKnown outcome (Counting.elapsed instruments begun)⟩
  rw [Counting.collector_finish, isOn, Option.map_some]

end Instruments.KnowRoutes

namespace Service

variable {service : Service} {surroundings : Surroundings} {instruments : Instruments}
  {request : Request} {label : RequestLabel}

theorem isKnown_of_counted {routes : List Route}
    (counted : Counting.label? instruments (Routing.label routes) request = .ok (some label)) :
    label.method = request.method ∧ Routing.label routes request = .ok label.route := by
  have told (template : Except Fault Text)
      (counted : template.map (fun route => some (RequestLabel.mk request.method route)) =
        .ok (some label)) : label.method = request.method ∧ template = .ok label.route := by
    cases template with
    | error fault => cases counted
    | ok route =>
        cases counted
        exact ⟨rfl, rfl⟩
  unfold Counting.label? at counted
  split at counted
  · cases counted
  · split at counted
    · cases counted
    · split at counted
      · cases counted
      · exact told _ counted

/-- A request brings in no labels but known ones. -/
theorem knowRoutes_handle (known : instruments.KnowRoutes service.routes)
    (surroundings : Surroundings) (request : Request) :
    (service.handle surroundings instruments request).1.KnowRoutes service.routes := by
  have keeps := keepsCounts_behind service surroundings
  rw [handle]
  cases isHttp : request.isHttp with
  | false => exact known
  | true =>
      rw [if_pos rfl]
      rcases counted : Counting.label? instruments (Routing.label service.routes) request with
        fault | (_ | label)
      · simpa [layers, Counting.measure, isHttp, counted] using known
      · have same := (keeps instruments request).same
        simpa [layers, Counting.measure, isHttp, counted] using known.sameRequests same
      · have isKnown := Routing.isKnown_of_label (isKnown_of_counted counted).2
        have beside := (keeps (Counting.start instruments label).2 request).same
        rw [layers, Counting.measure_of_counted isHttp counted rfl rfl]
        exact ((known.start isKnown).sameRequests beside).finish isKnown _ _

/-- So does every sequence of requests. -/
theorem knowRoutes_foldl (known : instruments.KnowRoutes service.routes)
    (visits : List (Surroundings × Request)) :
    (visits.foldl (fun instruments visit => (service.handle visit.1 instruments visit.2).1)
      instruments).KnowRoutes service.routes := by
  induction visits generalizing instruments with
  | nil => exact known
  | cons visit rest ih => exact ih (knowRoutes_handle known visit.1 visit.2)

end Service

namespace Traffic

variable {routes : List Route} {traffic next : Traffic}

/-- The labels of the instruments and of the visits under way are known. -/
structure IsKnown (routes : List Route) (traffic : Traffic) : Prop where
  instruments : traffic.instruments.KnowRoutes routes
  visits : ∀ visit ∈ traffic.visits, Routing.IsKnown routes visit.label.route

theorem Step.isKnown (step : Step (Routing.label routes) traffic next)
    (known : traffic.IsKnown routes) : next.IsKnown routes := by
  rcases known with ⟨instruments, visits⟩
  cases step with
  | @arrive own under label request isHttp counted =>
      have isKnown := Routing.isKnown_of_label (Service.isKnown_of_counted counted).2
      refine ⟨instruments.start isKnown, ?_⟩
      intro visit listed
      rcases List.mem_append.1 listed with old | new
      · exact visits visit old
      · rw [List.mem_singleton.1 new]
        exact isKnown
  | @depart own earlier later label begun outcome isNumber =>
      have isKnown := visits ⟨label, .underWay begun⟩ (by simp)
      refine ⟨instruments.finish isKnown begun _, ?_⟩
      intro visit listed
      rcases List.mem_append.1 listed with old | new
      · exact visits visit (List.mem_append_left _ old)
      · rcases List.mem_cons.1 new with rfl | old
        · exact isKnown
        · exact visits visit (List.mem_append_right _ (List.mem_cons_of_mem _ old))
  | beside same => exact ⟨instruments.sameRequests same, visits⟩

theorem Reaches.isKnown (reaches : Reaches (Routing.label routes) traffic next)
    (known : traffic.IsKnown routes) : next.IsKnown routes := by
  induction reaches with
  | refl => exact known
  | tail _ step ih => exact step.isKnown ih

end Traffic

theorem Instruments.knowRoutes_fresh (routes : List Route) (watch : Stopwatch) :
    (Instruments.mk (some .empty) watch).KnowRoutes routes :=
  ⟨.empty, rfl, .empty⟩

namespace Service

variable {service : Service}

/-- The label of a request is right: it tells where the router sends the request. -/
structure CountsUnder (service : Service) (request : Request) (label : RequestLabel) : Prop where
  method : label.method = request.method
  falls : ∀ state, Routing.FallsTo service.routes request
    (Routing.destination service.routes { request with state := state }) label.route
  unmatched : label.route = Routing.unmatched ↔
    ∀ route ∈ service.routes, route.takesPath request.routePath = false
  wrongMethod : ∀ route, Routing.destination service.routes request = .wrongMethod route →
    ∀ surroundings instruments state, ∃ response,
      service.dispatch surroundings instruments { request with state := state } =
        (instruments, .quiet (.ok response)) ∧ response.status = 405
  handsOn : ∀ surroundings instruments,
    Handler.HandsOn (service.shielded surroundings) instruments request

theorem formed_of_build {settings : Settings} {drivers users : Source}
    {context : RequestState → Except Raised Context}
    (built : Service.build settings drivers users context = .ok service) :
    Routing.check service.settings.apiPrefix = .ok () := by
  unfold Service.build at built
  split at built
  · cases built
  · cases built
  · split at built
    · cases built
    · rename_i formed
      cases built
      exact formed

theorem exists_wrongMethod {request : Request} {route : Route}
    (goes : Routing.destination service.routes request = .wrongMethod route)
    (surroundings : Surroundings) (instruments : Instruments) :
    ∃ response, service.dispatch surroundings instruments request =
      (instruments, .quiet (.ok response)) ∧ response.status = 405 := by
  have made : (remark 405 "Method Not Allowed").isOk = true := by decide +kernel
  cases remarked : remark 405 "Method Not Allowed" with
  | error fault =>
      rw [remarked] at made
      cases made
  | ok response =>
      have counts : response.status = 405 := by
        unfold remark Response.ofJson Response.ofText at remarked
        split at remarked
        · split at remarked
          · cases remarked
          · cases remarked
            rfl
        · cases remarked
      refine ⟨response.addHeaders [("allow", surroundings.pages.listing route.methods)], ?_, counts⟩
      simp only [dispatch, goes, remarked]
      rfl

/-- What a service has recorded about a request in between: nothing, or that it came in under a
label that is right, and was over after a time as it came out of the layers. -/
def RecordsRightly (service : Service) (surroundings : Surroundings) (instruments : Instruments)
    (request : Request) (collector after : Collector) : Prop :=
  collector.SameRequests after ∨ ∃ label duration, service.CountsUnder request label ∧
    ((collector.started label).finished label
      (service.layers surroundings instruments request).2.result duration).SameRequests after

/-- The label of the counting layer is right. -/
theorem countsUnder_of_counted {request : Request} {label : RequestLabel}
    (formed : Routing.check service.settings.apiPrefix = .ok ()) {instruments : Instruments}
    (counted : Counting.label? instruments (Routing.label service.routes) request =
      .ok (some label)) : service.CountsUnder request label := by
  rcases isKnown_of_counted counted with ⟨method, told⟩
  have falls := Routing.fallsTo_of_label told
  refine ⟨method, fun _ => falls, ?_, ?_, ?_⟩
  · exact falls.eq_unmatched_iff fun route listed =>
      Routing.template_ne_unmatched formed listed
  · intro route goes surroundings running state
    have handed : Routing.destination service.routes { request with state := state } =
      .wrongMethod route := goes
    exact exists_wrongMethod handed surroundings running
  · exact fun surroundings running => handsOn_shielded service surroundings running request

theorem recordsRightly_handle {request : Request} {collector : Collector} {watch : Stopwatch}
    (formed : Routing.check service.settings.apiPrefix = .ok ()) (surroundings : Surroundings)
    (isHttp : request.isHttp = true) :
    ∃ after,
      (service.handle surroundings ⟨some collector, watch⟩ request).1.collector = some after ∧
      service.RecordsRightly surroundings ⟨some collector, watch⟩ request collector after := by
  have keeps := keepsCounts_behind service surroundings
  unfold RecordsRightly
  rw [handle, if_pos isHttp]
  rcases counted : Counting.label? ⟨some collector, watch⟩ (Routing.label service.routes) request
    with fault | (_ | label)
  · refine ⟨collector, ?_, Or.inl (.refl collector)⟩
    simp [layers, Counting.measure, isHttp, counted]
  · rcases (keeps ⟨some collector, watch⟩ request).same.exists_collector rfl with
      ⟨after, isOn, same⟩
    refine ⟨after, ?_, Or.inl same⟩
    simpa [layers, Counting.measure, isHttp, counted] using isOn
  · rcases handled : Cors.share (service.protect surroundings (service.endpoints surroundings)
        guarded) (Counting.start ⟨some collector, watch⟩ label).2 request with ⟨behind, step⟩
    have beside := (keeps (Counting.start ⟨some collector, watch⟩ label).2 request).same
    rw [handled] at beside
    rcases beside.exists_collector rfl with ⟨after, isOn, same⟩
    have ends : service.layers surroundings ⟨some collector, watch⟩ request = _ :=
      Counting.measure_of_counted isHttp counted rfl handled
    rw [ends]
    refine ⟨_, ?_, Or.inr ⟨label, _, countsUnder_of_counted formed counted,
      same.finished label _ (Counting.elapsed behind (Counting.start ⟨some collector, watch⟩
        label).1)⟩⟩
    simp only
    rw [Counting.collector_finish, isOn]
    rfl

/-- Requests are counted under the template of the route that the router sends them to, or would
send them to if they came that far. The labels of a collector never grow beyond these templates and
the label for no route. -/
theorem labels_follow_routes {settings : Settings} {drivers users : Source}
    {context : RequestState → Except Raised Context}
    (built : Service.build settings drivers users context = .ok service) :
    (∀ request,
      Routing.label service.routes request = Routing.labelFrom request none service.routes ∧
      Routing.destination service.routes request =
        Routing.destinationFrom request service.routes none service.routes) ∧
    (∀ surroundings collector watch request, request.isHttp = true →
      ∃ after,
        (service.handle surroundings ⟨some collector, watch⟩ request).1.collector = some after ∧
        service.RecordsRightly surroundings ⟨some collector, watch⟩ request collector after) ∧
    (∀ watch (visits : List (Surroundings × Request)), ∃ collector,
      (visits.foldl (fun instruments visit => (service.handle visit.1 instruments visit.2).1)
        ⟨some .empty, watch⟩).collector = some collector ∧
      collector.KnowsRoutes service.routes) ∧
    ∀ watch traffic, Traffic.Reaches (Routing.label service.routes) (.fresh watch) traffic →
      ∃ collector, traffic.instruments.collector = some collector ∧
        collector.KnowsRoutes service.routes := by
  have formed := formed_of_build built
  refine ⟨?searches, ?recorded, ?sequence, ?overlap⟩
  case searches =>
    intro request
    have sole := Routing.areSole_routes service.settings.apiPrefix
    refine ⟨Routing.label_eq_labelFrom sole ?_ request,
      Routing.destination_eq_destinationFrom sole request⟩
    intro route listed
    rcases Routing.exists_template formed listed with ⟨rest, starts⟩
    simp [starts]
  case recorded =>
    intro surroundings collector watch request isHttp
    exact recordsRightly_handle formed surroundings isHttp
  case sequence =>
    intro watch visits
    rcases knowRoutes_foldl (Instruments.knowRoutes_fresh service.routes watch) visits with
      ⟨collector, isOn, labelled⟩
    exact ⟨collector, isOn, labelled.knowsRoutes⟩
  case overlap =>
    intro watch traffic reaches
    have fresh : (Traffic.fresh watch).IsKnown service.routes :=
      ⟨Instruments.knowRoutes_fresh service.routes watch, by simp [Traffic.fresh]⟩
    rcases (reaches.isKnown fresh).instruments with ⟨collector, isOn, labelled⟩
    exact ⟨collector, isOn, labelled.knowsRoutes⟩

/-- An answer that has come in between was recorded under the label of the request. -/
theorem countsUnder_of_answered {surroundings : Surroundings} {instruments : Instruments}
    {request : Request} {collector after : Collector} {label : RequestLabel} {status : Text}
    (records : service.RecordsRightly surroundings instruments request collector after)
    (more : after.answered ⟨label, status⟩ ≠ collector.answered ⟨label, status⟩) :
    service.CountsUnder request label := by
  rcases records with same | ⟨own, duration, counts, same⟩
  · exact absurd (same.answered_eq _) more
  · rw [same.answered_eq, Collector.answered_finished] at more
    by_cases isOwn : label = own
    · rw [isOwn]
      exact counts
    · simp only [isOwn, false_and, if_false, Nat.add_zero] at more
      exact absurd rfl more

/-- A request for the health of a service with a method that no route has. -/
def postedHealth : Request := { strangerRequest "/api/v1/health" with method := "POST" }

/-- A request for the manual of a service. -/
def manualRequest : Request := strangerRequest "/docs"

/-- A request for a page of another kind of service. -/
def loginPage : Request := strangerRequest "/wp-login.php"

/-- The first is counted under the template of the route that refuses it, the second under the one
of the page, the third under no template, and nothing else comes into the collector with them. -/
theorem sample_labels :
    (sample .absent).CountsUnder postedHealth ⟨"POST", "/api/v1/health"⟩ ∧
      (sample .absent).CountsUnder manualRequest ⟨"GET", "/docs"⟩ ∧
      (sample .absent).CountsUnder loginPage ⟨"GET", "unmatched"⟩ ∧
      ∃ collector, ([(calm, postedHealth), (calm, manualRequest), (calm, loginPage)].foldl
          (fun instruments visit => ((sample .absent).handle visit.1 instruments visit.2).1)
          gauged).collector = some collector ∧
        collector.KnowsRoutes (sample .absent).routes := by
  rcases labels_follow_routes (build_sample .absent) with ⟨_, recorded, sequence, _⟩
  have counts {request : Request} {label : RequestLabel} {status : Text}
      (isHttp : request.isHttp = true)
      (test : ((sample .absent).handle calm gauged request).1.collector.map
        (·.answered ⟨label, status⟩) = some 1) : (sample .absent).CountsUnder request label := by
    rcases recorded calm .empty freshWatch request isHttp with ⟨after, isOn, records⟩
    refine @countsUnder_of_answered _ _ _ _ _ after label status records ?_
    have once : after.answered ⟨label, status⟩ = 1 := by
      simpa [gauged, isOn] using test
    have before : Collector.empty.answered ⟨label, status⟩ = 0 := rfl
    rw [once, before]
    decide
  refine ⟨?_, ?_, ?_, sequence freshWatch _⟩
  · exact @counts postedHealth _ "405" rfl (by decide +kernel)
  · exact @counts manualRequest _ "200" rfl (by decide +kernel)
  · exact @counts loginPage _ "404" rfl (by decide +kernel)

end Service

end FleetGate
