import Mathlib.Data.List.Basic
import FleetGate.Proofs.Metrics.Counting
import FleetGate.Proofs.Service.Profile

/-!
# Measuring changes no answer

What a service answers does not depend on its instruments, with one exception: the endpoint for the
metrics has nothing to show without a collector. `Handler.IsBlind` says that a handler takes the
same step for a request whatever the instruments are. All endpoints but that one are blind, and
every layer in front of them hands the property on. A layer may put something into the state of a
request, so the property speaks about the request in any state.

The counting layer adds two more exceptions. To find a label it looks for the route of a request
before anything else does, and where the path cannot be read it ends the request right there.
Without a collector the same complaint comes up when the request is dispatched, unless another layer
answers first. And before that it reads the URL of the request, of which nothing else needs the
query.
-/

namespace FleetGate

/-- A handler takes the same step for a request in any state, whatever the instruments are. -/
def Handler.IsBlind (handler : Handler) (request : Request) : Prop :=
  ∀ (state : Option RequestState) (instruments others : Instruments),
    (handler instruments { request with state := state }).2 =
      (handler others { request with state := state }).2

namespace Handler.IsBlind

variable {inner : Handler} {request : Request}

theorem apply (blind : inner.IsBlind request) (instruments others : Instruments) :
    (inner instruments request).2 = (inner others request).2 :=
  blind request.state instruments others

theorem mapOutcome (blind : inner.IsBlind request) (change : Request → Outcome → Outcome) :
    (inner.mapOutcome change).IsBlind request := by
  intro state instruments others
  simp only [Handler.mapOutcome, blind state instruments others]

theorem share (blind : inner.IsBlind request) : (Cors.share inner).IsBlind request := by
  intro state instruments others
  unfold Cors.share
  split
  · rfl
  · exact blind.mapOutcome _ state instruments others

theorem behindLayer (blind : inner.IsBlind request) (layer : AuthLayer) (now : Int) :
    (layer.protect now inner).IsBlind request := by
  intro state instruments others
  unfold AuthLayer.protect
  cases verdict : (layer.handle now { request with state := state }).result with
  | forward called =>
      -- The layer has changed the state of the request at most, and what is behind is still blind.
      rcases AuthLayer.exists_state_of_forward verdict with ⟨behind, rfl⟩
      simp only [verdict, blind behind instruments others]
  | respond response => simp only [verdict]
  | raise raised => simp only [verdict]

theorem protect (blind : inner.IsBlind request) (service : Service)
    (surroundings : Surroundings) (kinds : List PrincipalKind) :
    (service.protect surroundings inner kinds).IsBlind request := by
  induction kinds with
  | nil => exact blind
  | cons kind rest ih => exact ih.behindLayer _ _

end Handler.IsBlind

namespace Counting

variable {route : Request → Except Fault Text} {inner : Handler} {request : Request}

/-- The counting layer shows what is behind it, provided that it can read the URL and that what is
behind it makes the same complaint about a request without a label. -/
theorem measure_shows {query : Text} (blind : inner.IsBlind request)
    (isHttp : request.isHttp = true) (read : request.queryText = .ok query)
    (instruments others : Instruments)
    (complains : ∀ fault, route request = .error fault →
      (inner others request).2.result = .error (.fault fault) ∧
        (inner others request).2.calls = []) :
    (measure route inner instruments request).2.result =
        settled (inner others request).2.result ∧
      (measure route inner instruments request).2.calls = (inner others request).2.calls := by
  unfold measure
  rw [isHttp]
  rcases counted : label? instruments route request with fault | (_ | label)
  · rcases (exists_fault_of_untold counted).2 with unread | untold
    · rw [read] at unread
      cases unread
    · rcases complains fault untold with ⟨complaint, quiet⟩
      rw [complaint, quiet]
      exact ⟨rfl, rfl⟩
  · simp only [Bool.not_true, Bool.false_eq_true, if_false, blind.apply instruments others]
    exact ⟨rfl, rfl⟩
  · simp only [Bool.not_true, Bool.false_eq_true, if_false,
      blind.apply (start instruments label).2 others]
    exact ⟨rfl, rfl⟩

end Counting

namespace Service

variable {service : Service} {surroundings : Surroundings} {request : Request}

theorem step_health (surroundings : Surroundings) (instruments others : Instruments) :
    (health surroundings instruments).2 = (health surroundings others).2 := by
  unfold health askHealth
  cases surroundings.connection.sign <;> rfl

theorem isBlind_dispatch (surroundings : Surroundings)
    (elsewhere : Routing.destination service.routes request ≠ .endpoint .metrics) :
    (service.dispatch surroundings).IsBlind request := by
  intro state instruments others
  have sameDestination : Routing.destination service.routes { request with state := state } =
      Routing.destination service.routes request := rfl
  unfold dispatch
  rw [sameDestination]
  cases goes : Routing.destination service.routes request with
  | endpoint endpoint =>
      cases endpoint with
      | metrics => exact absurd goes elsewhere
      | health => exact step_health surroundings instruments others
      | _ => rfl
  | _ => rfl

/-- What is behind the counting layer is blind, unless a request is for the metrics. -/
theorem isBlind_behind (surroundings : Surroundings)
    (elsewhere : Routing.destination service.routes request ≠ .endpoint .metrics) :
    (Cors.share (service.protect surroundings (service.endpoints surroundings)
      guarded)).IsBlind request :=
  (((isBlind_dispatch surroundings elsewhere).mapOutcome _).protect service surroundings
    guarded).share

theorem protect_of_uncovered {inner : Handler} {instruments : Instruments}
    (uncovered : ∀ kind,
      (service.layer surroundings.database kind).guard.covers request.path = false)
    (kinds : List PrincipalKind) :
    service.protect surroundings inner kinds instruments request = inner instruments request := by
  induction kinds with
  | nil => rfl
  | cons kind rest ih =>
      have transparent : (service.layer surroundings.database kind).covers request = false := by
        rw [AuthLayer.covers, uncovered, Bool.and_false]
      exact (AuthLayer.protect_of_not_covers transparent).trans ih

/-- A request that no other layer answers ends with the complaint about its path. -/
theorem complains_behind {fault : Fault} (instruments : Instruments)
    (unasked : Cors.question? request = none)
    (uncovered : ∀ kind,
      (service.layer surroundings.database kind).guard.covers request.path = false)
    (untold : Routing.label service.routes request = .error fault) :
    Cors.share (service.protect surroundings (service.endpoints surroundings) guarded)
        instruments request =
      (instruments, .quiet (.error (.fault fault))) := by
  have unreadable : Routing.destination service.routes request = .unreadable fault := by
    unfold Routing.label at untold
    unfold Routing.destination
    split at untold
    · cases untold
      simp only [*]
    · cases untold
  have dispatched : service.endpoints surroundings instruments request =
      (instruments, .quiet (.error (.fault fault))) := by
    simp only [endpoints, Handler.mapOutcome, dispatch, unreadable]
    rfl
  have passed := @protect_of_uncovered service surroundings request
    (service.endpoints surroundings) instruments uncovered guarded
  simp only [Cors.share, unasked, Handler.mapOutcome, passed, dispatched]
  rfl

theorem result_conclude_congr {step other : Traced Outcome} (same : step.result = other.result) :
    (conclude step).result = (conclude other).result := by
  unfold conclude
  rw [same]
  split
  · split <;> rfl
  all_goals rfl

/-- Two sets of instruments make no difference to a request: the same response is sent, the same
comes out of the service, and the same lookups are made. -/
def AnswersAlike (service : Service) (surroundings : Surroundings) (request : Request)
    (instruments others : Instruments) : Prop :=
  (service.handle surroundings instruments request).2.result =
      (service.handle surroundings others request).2.result ∧
    (service.handle surroundings instruments request).2.calls =
      (service.handle surroundings others request).2.calls

theorem answersAlike_of_layers {instruments others : Instruments}
    (sameResult : (service.layers surroundings instruments request).2.result =
      (service.layers surroundings others request).2.result)
    (sameCalls : (service.layers surroundings instruments request).2.calls =
      (service.layers surroundings others request).2.calls) :
    service.AnswersAlike surroundings request instruments others := by
  unfold AnswersAlike handle
  split
  · refine ⟨result_conclude_congr sameResult, ?_⟩
    rw [calls_conclude, calls_conclude]
    exact sameCalls
  · exact ⟨rfl, rfl⟩

/-- Every request that is not for the metrics is answered alike, provided that its query can be read
and that its path can be read or no other layer answers it. -/
theorem answersAlike_elsewhere {query : Text} (surroundings : Surroundings)
    (instruments others : Instruments) (read : request.queryText = .ok query)
    (elsewhere : Routing.destination service.routes request ≠ .endpoint .metrics)
    (readable : Routing.fault? service.routes request.routePath = none ∨
      (Cors.question? request = none ∧ ∀ kind,
        (service.layer surroundings.database kind).guard.covers request.path = false)) :
    service.AnswersAlike surroundings request instruments others := by
  cases isHttp : request.isHttp with
  | false =>
      unfold AnswersAlike handle
      rw [isHttp]
      exact ⟨rfl, rfl⟩
  | true =>
      have blind := @isBlind_behind service request surroundings elsewhere
      have complains (fault : Fault)
          (untold : Routing.label service.routes request = .error fault) :
          (Cors.share (service.protect surroundings (service.endpoints surroundings) guarded)
            others request).2.result = .error (.fault fault) ∧
          (Cors.share (service.protect surroundings (service.endpoints surroundings) guarded)
            others request).2.calls = [] := by
        rcases readable with readable | ⟨unasked, uncovered⟩
        · rw [Routing.label, readable] at untold
          cases untold
        · rw [complains_behind others unasked uncovered untold]
          exact ⟨rfl, rfl⟩
      rcases Counting.measure_shows blind isHttp read instruments others complains with
        ⟨result, calls⟩
      rcases Counting.measure_shows blind isHttp read others others complains with
        ⟨otherResult, otherCalls⟩
      exact answersAlike_of_layers (result.trans otherResult.symm) (calls.trans otherCalls.symm)

theorem path_of_metrics (plain : Template.parameters service.settings.apiPrefix = [])
    (goes : Routing.destination service.routes request = .endpoint .metrics) :
    request.routePath = service.settings.apiPrefix ++ "/metrics" ∨
      request.routePath = service.settings.apiPrefix ++ "/metrics\n" := by
  rcases exists_route_of_destination goes with ⟨route, listed, taken, shows, _⟩
  rw [Routing.eq_route_of_mem listed, Routing.takesPath_iff plain, shows] at taken
  exact taken

/-- What a service answers does not depend on its instruments: not on whether there is a collector,
nor on what it has counted. This holds for every request with a query that can be read and that does
not go to the endpoint for the metrics, unless its path cannot be read and another layer would have
answered it. Below a prefix without parameters it holds for every path but the one for the metrics,
with a line feed behind it or without one. -/
theorem answers_ignore_instruments {query : Text} (service : Service) (surroundings : Surroundings)
    (request : Request) (instruments others : Instruments)
    (read : request.queryText = .ok query) :
    (Routing.destination service.routes request ≠ .endpoint .metrics →
      (Routing.fault? service.routes request.routePath = none ∨
        (Cors.question? request = none ∧ ∀ kind,
          (service.layer surroundings.database kind).guard.covers request.path = false)) →
      service.AnswersAlike surroundings request instruments others) ∧
      (Template.parameters service.settings.apiPrefix = [] →
        request.routePath ≠ service.settings.apiPrefix ++ "/metrics" →
        request.routePath ≠ service.settings.apiPrefix ++ "/metrics\n" →
        service.AnswersAlike surroundings request instruments others) := by
  refine ⟨answersAlike_elsewhere surroundings instruments others read, ?_⟩
  intro plain unlike unlikeFeed
  apply answersAlike_elsewhere surroundings instruments others read
  · intro goes
    rcases path_of_metrics plain goes with same | same
    · exact unlike same
    · exact unlikeFeed same
  · exact Or.inl (Routing.fault?_of_plain plain request.routePath)

/-- A sample service below a prefix that is an integer. -/
def numbered : Service :=
  { sample .absent with
    settings := { (sample .absent).settings with apiPrefix := "/\x7bn:int\x7d" } }

/-- A request for the health of a service below the prefix `/7`. -/
def numberedRequest : Request := { healthRequest [] with path := "/7/health" }

theorem numbered_answersAlike :
    (numberedRequest.queryText = .ok [] ∧
      Routing.destination numbered.routes numberedRequest ≠ .endpoint .metrics ∧
      Routing.fault? numbered.routes numberedRequest.routePath = none ∧
      numbered.AnswersAlike calm numberedRequest gauged unmeasured) ∧
      (healthRequest []).queryText = .ok [] ∧
        Template.parameters (sample .absent).settings.apiPrefix = [] ∧
        (healthRequest []).routePath ≠ "/api/v1/metrics" ∧
        (healthRequest []).routePath ≠ "/api/v1/metrics\n" ∧
        (sample .absent).AnswersAlike calm (healthRequest []) gauged unmeasured := by
  have elsewhere : Routing.destination numbered.routes numberedRequest ≠ .endpoint .metrics := by
    change Routing.destination (Routing.routes "/\x7bn:int\x7d") _ ≠ _
    decide
  have readable : Routing.fault? numbered.routes numberedRequest.routePath = none := by
    change Routing.fault? (Routing.routes "/\x7bn:int\x7d") _ = _
    rfl
  have read : numberedRequest.queryText = .ok [] := rfl
  have readHealth : (healthRequest []).queryText = .ok [] := rfl
  have general := answers_ignore_instruments numbered calm numberedRequest gauged unmeasured read
  have belowPlain := answers_ignore_instruments (sample .absent) calm (healthRequest []) gauged
    unmeasured readHealth
  refine ⟨⟨read, elsewhere, readable, general.1 elsewhere (Or.inl readable)⟩, ?_⟩
  have plain : Template.parameters (sample .absent).settings.apiPrefix = [] := by decide
  have unlike : (healthRequest []).routePath ≠ "/api/v1/metrics" := by decide
  have unlikeFeed : (healthRequest []).routePath ≠ "/api/v1/metrics\n" := by decide
  exact ⟨readHealth, plain, unlike, unlikeFeed, belowPlain.2 plain unlike unlikeFeed⟩

/-! ## Where measuring shows -/

/-- A question beforehand about a path that cannot be read is answered without a collector only. -/
theorem not_answersAlike_of_unreadable {collector : Collector} {watch other : Stopwatch}
    {method : Text} {response : Response} (isHttp : request.isHttp = true)
    (isSeen : Counting.IsSeen request)
    (asked : Cors.question? request = some method)
    (answers : Cors.answer request method = .ok response) (quiet : response.trailing = none)
    (unreadable : (Routing.fault? service.routes request.routePath).isSome = true) :
    ¬service.AnswersAlike surroundings request ⟨some collector, watch⟩ ⟨none, other⟩ := by
  rintro ⟨same, _⟩
  rcases Option.isSome_iff_exists.1 unreadable with ⟨fault, found⟩
  have untold : Routing.label service.routes request = .error fault := by
    rw [Routing.label, found]
  have unlabelled := @Counting.label?_of_seen (Routing.label service.routes)
    ⟨some collector, watch⟩ request rfl isSeen
  rw [untold, Except.map] at unlabelled
  have refused : service.layers surroundings ⟨some collector, watch⟩ request =
      (⟨some collector, watch⟩, .quiet (.error (.fault fault))) :=
    Counting.measure_of_untold isHttp unlabelled
  have answered : service.layers surroundings ⟨none, other⟩ request =
      (⟨none, other⟩, .quiet (.ok response)) := by
    simp only [layers, Counting.measure, isHttp, Counting.label?, Cors.share, asked, answers]
    rfl
  have concluded : (conclude (.quiet (.ok response))).result = ⟨some response, none⟩ :=
    conclude_of_ok rfl quiet
  rw [handle, handle, if_pos isHttp, if_pos isHttp, refused, answered] at same
  rw [concluded] at same
  cases same

/-- A request for the metrics with a line feed behind the path. -/
def lineFeedRequest : Request := { healthRequest [] with path := "/api/v1/metrics\n" }

theorem lineFeedRequest_not_answersAlike :
    ¬(sample .absent).AnswersAlike calm lineFeedRequest gauged unmeasured := by
  rintro ⟨same, _⟩
  have shown : ((sample .absent).handle calm gauged lineFeedRequest).2.result.response.map
      (·.status.shown) = some "200" := by
    decide +kernel
  have refused : ((sample .absent).handle calm unmeasured lineFeedRequest).2.result.response.map
      (·.status.shown) = some "503" := by
    decide +kernel
  rw [same, refused] at shown
  exact absurd shown (by decide)

/-- A request for the health of a service with a query that is no text. -/
def strayByteRequest : Request := { healthRequest [] with query := [0xFF] }

theorem strayByteRequest_not_answersAlike :
    ¬(sample .absent).AnswersAlike calm strayByteRequest gauged unmeasured := by
  rintro ⟨same, _⟩
  have refused : ((sample .absent).handle calm gauged strayByteRequest).2.result.response.map
      (·.status.shown) = some "500" := by
    decide +kernel
  have shown : ((sample .absent).handle calm unmeasured strayByteRequest).2.result.response.map
      (·.status.shown) = some "200" := by
    decide +kernel
  rw [same, shown] at refused
  exact absurd refused (by decide)

/-- A question beforehand about a path with an integer of so many digits. -/
def numberedQuestion (digits : Nat) : Request :=
  ⟨"server", true, "OPTIONS", [],
    Text.ofChar '/' ++ (List.replicate digits (.scalar '1') ++ Text.ofString "/health"), [],
    [(Cors.originHeader, "http://localhost"), (Cors.methodHeader, "GET")], none⟩

theorem urlPath_numberedQuestion (digits : Nat) :
    (numberedQuestion digits).urlPath = .ok (numberedQuestion digits).path := by
  have plain (point : CodePoint) (listed : point ∈ (numberedQuestion digits).path) :
      Url.escapePoint point = [point] ∧ Url.isDropped point = false := by
    simp only [numberedQuestion, List.mem_append, List.mem_replicate] at listed
    rcases listed with opening | ⟨_, rfl⟩ | behind
    · revert point
      decide
    · decide
    · revert point
      decide
  have escaped : (numberedQuestion digits).path.flatMap Url.escapePoint =
      (numberedQuestion digits).path := by
    calc (numberedQuestion digits).path.flatMap Url.escapePoint
        = (numberedQuestion digits).path.flatMap fun point => [point] :=
          List.flatMap_congr fun point listed => (plain point listed).1
      _ = (numberedQuestion digits).path := List.flatMap_singleton' _
  have path : Url.ofPath (numberedQuestion digits).path = (numberedQuestion digits).path := by
    rw [Url.ofPath, escaped]
    rfl
  have kept : (numberedQuestion digits).path.filter (fun point => !Url.isDropped point) =
      (numberedQuestion digits).path := by
    rw [List.filter_eq_self]
    intro point listed
    rw [(plain point listed).2, Bool.not_false]
  have read : (numberedQuestion digits).queryText = .ok [] := rfl
  rw [Request.urlPath, read, path, Except.map, kept]

theorem getLast?_numberedQuestion (digits : Nat) :
    (numberedQuestion digits).path.getLast? = some (.scalar 'h') := by
  rw [numberedQuestion, List.getLast?_append, List.getLast?_append]
  rfl

theorem isSeen_numberedQuestion (digits : Nat) : Counting.IsSeen (numberedQuestion digits) := by
  refine ⟨_, urlPath_numberedQuestion digits, ?_⟩
  rw [Bool.eq_false_iff]
  intro ends
  rcases List.isSuffixOf_iff_suffix.1 ends with ⟨front, same⟩
  have last := congrArg List.getLast? same
  rw [List.getLast?_append, getLast?_numberedQuestion] at last
  cases last

theorem isSome_fault?_numberedQuestion {digits : Nat} (many : integerDigitLimit + 2 < digits) :
    (Routing.fault? numbered.routes (numberedQuestion digits).routePath).isSome = true := by
  have pieces : Template.pieces "/\x7bn:int\x7d/health" =
      .point (.scalar '/') :: .parameter "n" "int" :: (Text.ofString "/health").map .point := by
    decide
  have stem : (Text.ofString "/health").length = 7 := by decide
  have some : digits ≠ 0 := by omega
  have accepted : Template.isDigits (List.replicate digits (.scalar '1')) = true := by
    simp [Template.isDigits, some]
    rfl
  have taken : Template.takes "/\x7bn:int\x7d/health" (numberedQuestion digits).path = true := by
    have below : digits < (List.replicate digits (CodePoint.scalar '1') ++
        Text.ofString "/health").length + 1 := by
      rw [List.length_append, List.length_replicate]
      omega
    rw [Template.takes, pieces]
    refine List.any_eq_true.2 ⟨digits, List.mem_range.2 below, ?_⟩
    simp [Template.fits_map_point_iff, Template.Kind.accepts, accepted]
  have unreadable :
      (Template.fault? "/\x7bn:int\x7d/health" (numberedQuestion digits).path).isSome = true := by
    refine Template.isSome_fault?_of_long ?_ taken ?_
    · rw [pieces]
      decide
    · have length : (numberedQuestion digits).path.length = digits + 8 := by
        simp only [numberedQuestion, Text.ofChar, List.length_append, List.length_replicate, stem,
          List.length_singleton]
        omega
      simp only [pieces, List.length_cons, List.length_map, stem, length]
      omega
  rw [Routing.fault?, List.isSome_findSome?, List.any_eq_true]
  exact ⟨_, Routing.route_mem "/\x7bn:int\x7d" .health, unreadable⟩

/-- A path for the metrics with a line feed behind it still goes to the metrics, a path that cannot
be read is noticed too early, and a query that cannot be read is looked at for the sake of counting
alone: none of the paths is the one for the metrics, but with a collector there is another answer
than without one. -/
theorem answers_show_instruments :
    (lineFeedRequest.path ≠ "/api/v1/metrics" ∧
      ¬(sample .absent).AnswersAlike calm lineFeedRequest gauged unmeasured) ∧
      ((numberedQuestion 5000).path ≠ "/\x7bn:int\x7d/metrics" ∧
        ¬numbered.AnswersAlike calm (numberedQuestion 5000) gauged unmeasured) ∧
      strayByteRequest.path ≠ "/api/v1/metrics" ∧
        ¬(sample .absent).AnswersAlike calm strayByteRequest gauged unmeasured := by
  refine ⟨⟨by decide, lineFeedRequest_not_answersAlike⟩, ⟨?_, ?_⟩, by decide,
    strayByteRequest_not_answersAlike⟩
  · intro same
    have last := congrArg List.getLast? same
    rw [getLast?_numberedQuestion] at last
    exact absurd last (by decide)
  · exact not_answersAlike_of_unreadable rfl (isSeen_numberedQuestion 5000) rfl rfl rfl
      (isSome_fault?_numberedQuestion (by decide))

end Service

end FleetGate
