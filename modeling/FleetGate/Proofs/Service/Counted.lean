import FleetGate.Proofs.Auth.Escape
import FleetGate.Proofs.Metrics.Overlap
import FleetGate.Proofs.Service.Profile

/-!
# Which answers are counted

The counting layer stands in front of all others, and nothing behind it touches the counts
(`Handler.KeepsCounts`): the endpoints only report on the database, and the other layers hand on the
instruments as they get them. Whether an answer is counted is therefore decided by the counting
layer alone.

It counts what it gets back, so it misses two kinds of answers. The layer lets every path pass
unseen that ends like the one for the metrics. And what stands for something unexpected is made
further out, when the layer has already been left without an answer. What is raised behind an
answer, on the other hand, comes too late to keep it from being counted.
-/

namespace FleetGate

namespace Stopwatch

/-- What a watch shows after some more readings. -/
def time (watch : Stopwatch) (count : Nat) : Float :=
  watch.reading (watch.taken + count)

/-- The time between any two of the next four readings is a number. -/
def IsSteady (watch : Stopwatch) : Prop :=
  ∀ earlier ≤ 4, ∀ later ≤ 4, (watch.time later - watch.time earlier).isNaN = false

end Stopwatch

/-- What has been counted and timed in between: an answer under a label, or nothing. -/
structure Collector.Gains (collector after : Collector) (label : RequestLabel)
    (status? : Option Text) : Prop where
  answered : ∀ other, after.answered other = collector.answered other +
    if other.request = label ∧ status? = some other.status then 1 else 0
  measured : ∀ other, after.measured other = collector.measured other +
    if other = label ∧ status?.isSome then 1 else 0

namespace Collector

variable {collector beside after : Collector} {label : RequestLabel} {status? other? : Option Text}

/-- Only one thing can have been gained. -/
theorem Gains.status?_eq (gains : collector.Gains after label status?)
    (other : collector.Gains after label other?) : status? = other? := by
  apply Option.ext
  intro status
  have counted := gains.answered ⟨label, status⟩
  rw [other.answered ⟨label, status⟩] at counted
  by_cases first : status? = some status
  · by_cases second : other? = some status
    · rw [first, second]
    · simp [first, second] at counted
  · by_cases second : other? = some status
    · simp [first, second] at counted
    · constructor
      · intro own
        exact absurd own first
      · intro own
        exact absurd own second

theorem SameRequests.gains (same : collector.SameRequests after) (label : RequestLabel) :
    collector.Gains after label none := by
  constructor
  · intro other
    simp [same.answered_eq]
  · intro other
    simp [same.measured_eq]

/-- A visit gains its answer, if there is one. -/
theorem IsSound.gains_finished {outcome : Outcome} {duration : Float} (sound : collector.IsSound)
    (same : (collector.started label).SameRequests beside) (isNumber : duration.isNaN = false) :
    collector.Gains (beside.finished label outcome duration) label outcome.status? := by
  have soundBeside := same.isSound (isSound_started sound label)
  constructor
  · intro other
    rw [answered_finished, same.answered_eq]
    rfl
  · intro other
    rw [soundBeside.measured_finished label outcome isNumber, same.measured_eq]
    rfl

end Collector

/-- Other instruments count the same requests, and their watch was read a few times at most. -/
structure Instruments.IsBeside (instruments other : Instruments) : Prop where
  same : instruments.SameRequests other
  reading : other.watch.reading = instruments.watch.reading
  taken : ∃ count ≤ 2, other.watch.taken = instruments.watch.taken + count

namespace Instruments.IsBeside

theorem of_collector {instruments other : Instruments}
    (same : instruments.SameRequests other) (unread : other.watch = instruments.watch) :
    instruments.IsBeside other := by
  refine ⟨same, ?_, 0, Nat.zero_le 2, ?_⟩
  · rw [unread]
  · rw [unread, Nat.add_zero]

theorem refl (instruments : Instruments) : instruments.IsBeside instruments := by
  refine of_collector ?_ rfl
  unfold SameRequests
  cases instruments.collector with
  | none => exact .none
  | some collector => exact .some (.refl collector)

end Instruments.IsBeside

/-- A handler leaves the counts of requests alone. -/
def Handler.KeepsCounts (handler : Handler) : Prop :=
  ∀ (instruments : Instruments) (request : Request),
    instruments.IsBeside (handler instruments request).1

namespace Handler.KeepsCounts

variable {inner : Handler}

theorem mapOutcome (keeps : inner.KeepsCounts) (change : Request → Outcome → Outcome) :
    (inner.mapOutcome change).KeepsCounts :=
  fun instruments request => keeps instruments request

theorem share (keeps : inner.KeepsCounts) : (Cors.share inner).KeepsCounts := by
  intro instruments request
  unfold Cors.share
  split
  · exact .refl instruments
  · exact keeps.mapOutcome _ instruments request

theorem behindLayer (keeps : inner.KeepsCounts) (layer : AuthLayer) (now : Int) :
    (layer.protect now inner).KeepsCounts := by
  intro instruments request
  unfold AuthLayer.protect
  cases verdict : (layer.handle now request).result with
  | forward called =>
      simp only [verdict]
      exact keeps instruments called
  | respond response =>
      simp only [verdict]
      exact .refl instruments
  | raise raised =>
      simp only [verdict]
      exact .refl instruments

theorem protect (keeps : inner.KeepsCounts) (service : Service) (surroundings : Surroundings)
    (kinds : List PrincipalKind) : (service.protect surroundings inner kinds).KeepsCounts := by
  induction kinds with
  | nil => exact keeps
  | cons kind rest ih => exact ih.behindLayer _ _

end Handler.KeepsCounts

namespace Counting

variable {route : Request → Except Fault Text} {inner : Handler} {collector : Collector}
  {watch : Stopwatch} {request : Request}

/-- On a steady watch the time that a request takes is a number. -/
theorem elapsed_isNumber {label : RequestLabel} {after : Instruments} (steady : watch.IsSteady)
    (beside : (start ⟨some collector, watch⟩ label).2.IsBeside after) :
    (elapsed after (start ⟨some collector, watch⟩ label).1).isNaN = false := by
  -- The first reading was taken on the way in, and at most two were taken behind the layer.
  rcases beside.taken with ⟨count, few, taken⟩
  have begun : (start ⟨some collector, watch⟩ label).1 = watch.time 0 := rfl
  have read : elapsed after (watch.time 0) = watch.time (count + 1) - watch.time 0 := by
    rw [elapsed, Stopwatch.read, taken, beside.reading]
    simp only [Stopwatch.time, start, Instruments.update, Instruments.read, Stopwatch.read,
      Nat.add_assoc, Nat.add_comm 1]
  rw [begun, read]
  exact steady 0 (by omega) (count + 1) (by omega)

/-- A request that the layer sees gains what comes out of the layer. -/
theorem measure_gains {template : Text} (keeps : inner.KeepsCounts) (sound : collector.IsSound)
    (steady : watch.IsSteady) (isHttp : request.isHttp = true)
    (isSeen : IsSeen request) (told : route request = .ok template) :
    ∃ after, (measure route inner ⟨some collector, watch⟩ request).1.collector = some after ∧
      collector.Gains after ⟨request.method, template⟩
        (measure route inner ⟨some collector, watch⟩ request).2.result.status? := by
  have counted := @label?_of_seen route ⟨some collector, watch⟩ request rfl isSeen
  rw [told, Except.map] at counted
  rcases starts : start ⟨some collector, watch⟩ ⟨request.method, template⟩ with ⟨begun, running⟩
  rcases handled : inner running request with ⟨after, step⟩
  have beside := keeps running request
  rw [handled] at beside
  cases starts
  rcases beside.same.exists_collector rfl with ⟨done, isOn, same⟩
  rw [measure_of_counted isHttp counted rfl handled]
  refine ⟨_, ?_, sound.gains_finished same (elapsed_isNumber steady beside)⟩
  rw [collector_finish, isOn]
  rfl

/-- A request that the layer refuses gains nothing. -/
theorem measure_untold {fault : Fault} (isHttp : request.isHttp = true)
    (untold : label? ⟨some collector, watch⟩ route request = .error fault)
    (label : RequestLabel) :
    ∃ after, (measure route inner ⟨some collector, watch⟩ request).1.collector = some after ∧
      collector.Gains after label none := by
  rw [measure_of_untold isHttp untold]
  exact ⟨collector, rfl, (Collector.SameRequests.refl collector).gains label⟩

/-- A request that the layer does not see gains nothing. -/
theorem measure_unseen (keeps : inner.KeepsCounts) (isHttp : request.isHttp = true)
    (unseen : ¬IsSeen request) (label : RequestLabel) :
    ∃ after, (measure route inner ⟨some collector, watch⟩ request).1.collector = some after ∧
      collector.Gains after label none := by
  cases read : request.urlPath with
  | error fault =>
      exact measure_untold isHttp (label?_of_unread rfl read) label
  | ok path =>
      have ends : Text.endsWith path metricsSuffix = true := by
        rw [← Bool.not_eq_false]
        exact fun other => unseen ⟨path, read, other⟩
      rcases (keeps ⟨some collector, watch⟩ request).same.exists_collector rfl with
        ⟨after, isOn, same⟩
      refine ⟨after, ?_, same.gains label⟩
      simpa [measure, isHttp, label?_of_unseen read ends] using isOn

end Counting

namespace Service

variable {service : Service} {surroundings : Surroundings} {instruments : Instruments}
  {request : Request}

theorem isBeside_health (surroundings : Surroundings) (instruments : Instruments) :
    instruments.IsBeside (health surroundings instruments).1 := by
  unfold health askHealth
  cases surroundings.connection.sign with
  | error raised => exact ⟨(Instruments.IsBeside.refl instruments).same, rfl, 1, by decide, rfl⟩
  | ok complaint =>
      refine ⟨?_, rfl, 2, Nat.le_refl 2, rfl⟩
      unfold Instruments.SameRequests Instruments.update Instruments.read
      cases instruments.collector with
      | none => exact .none
      | some collector => exact .some (collector.sameRequests_setHealth _ _ _)

theorem sameRequests_scraped {database : Database} {collector after : Collector}
    {logs : List LogLine} (scraped : service.scraped database collector = .ok (after, logs)) :
    collector.SameRequests after := by
  unfold Service.scraped refreshed at scraped
  split at scraped
  · split at scraped
    · cases scraped
      exact collector.sameRequests_setOnline _
    · cases scraped
      exact .refl collector
    · cases scraped
  · cases scraped
    exact .refl collector

theorem isBeside_metrics (service : Service) (surroundings : Surroundings)
    (instruments : Instruments) :
    instruments.IsBeside (service.metrics surroundings instruments).1 := by
  unfold metrics
  split
  · exact .refl instruments
  · rename_i collector isOn
    split
    · exact .refl instruments
    · rename_i after logs scraped
      refine .of_collector ?_ rfl
      rw [Instruments.SameRequests, isOn]
      exact .some (sameRequests_scraped scraped)

theorem keepsCounts_serve (service : Service) (surroundings : Surroundings) (endpoint : Endpoint) :
    (service.serve surroundings endpoint).KeepsCounts := by
  intro instruments request
  cases endpoint with
  | health => exact isBeside_health surroundings instruments
  | metrics => exact isBeside_metrics service surroundings instruments
  | _ => exact .refl instruments

theorem keepsCounts_dispatch (service : Service) (surroundings : Surroundings) :
    (service.dispatch surroundings).KeepsCounts := by
  intro instruments request
  unfold dispatch
  split
  · rename_i endpoint _
    exact keepsCounts_serve service surroundings endpoint instruments request
  all_goals exact .refl instruments

/-- Nothing behind the counting layer touches the counts. -/
theorem keepsCounts_behind (service : Service) (surroundings : Surroundings) :
    (Cors.share (service.protect surroundings (service.endpoints surroundings)
      guarded)).KeepsCounts :=
  (((keepsCounts_dispatch service surroundings).mapOutcome _).protect service surroundings
    guarded).share

theorem template_of_label {template : Text}
    (told : Routing.label service.routes request = .ok template) :
    template = Routing.template service.routes request := by
  unfold Routing.label at told
  split at told
  · cases told
  · cases told
    rfl

/-- A request that is counted comes in, leaves the counts alone on its way through the service, and
is over, so that the counts of all requests add up however they overlap. -/
theorem reaches_layers {collector : Collector} {watch : Stopwatch} {label : RequestLabel}
    (steady : watch.IsSteady) (visits : List Visit) (isHttp : request.isHttp = true)
    (counted : Counting.label? ⟨some collector, watch⟩ (Routing.label service.routes) request =
      .ok (some label)) :
    Traffic.Reaches (Routing.label service.routes) ⟨⟨some collector, watch⟩, visits⟩
      ⟨(service.layers surroundings ⟨some collector, watch⟩ request).1,
        visits ++ [⟨label,
          .over (service.layers surroundings ⟨some collector, watch⟩ request).2.result⟩]⟩ := by
  have beside := keepsCounts_behind service surroundings
    (Counting.start ⟨some collector, watch⟩ label).2 request
  exact Traffic.reaches_measure visits isHttp counted rfl rfl beside.same
    (Counting.elapsed_isNumber steady beside)

/-- What comes out of the counting layer is gained, unless the layer does not see the request. -/
theorem layers_gains {collector : Collector} {watch : Stopwatch} (sound : collector.IsSound)
    (steady : watch.IsSteady) (isHttp : request.isHttp = true) :
    ∃ after,
      (service.layers surroundings ⟨some collector, watch⟩ request).1.collector = some after ∧
      (Counting.IsSeen request →
        collector.Gains after ⟨request.method, Routing.template service.routes request⟩
          (service.layers surroundings ⟨some collector, watch⟩ request).2.result.status?) ∧
      (¬Counting.IsSeen request →
        collector.Gains after ⟨request.method, Routing.template service.routes request⟩ none) := by
  have keeps := keepsCounts_behind service surroundings
  by_cases isSeen : Counting.IsSeen request
  · have gains : ∃ after,
        (service.layers surroundings ⟨some collector, watch⟩ request).1.collector = some after ∧
        collector.Gains after ⟨request.method, Routing.template service.routes request⟩
          (service.layers surroundings ⟨some collector, watch⟩ request).2.result.status? := by
      cases told : Routing.label service.routes request with
      | error fault =>
          have untold := @Counting.label?_of_seen (Routing.label service.routes)
            ⟨some collector, watch⟩ request rfl isSeen
          rw [told, Except.map] at untold
          have refused : service.layers surroundings ⟨some collector, watch⟩ request =
              (⟨some collector, watch⟩, .quiet (.error (.fault fault))) :=
            Counting.measure_of_untold isHttp untold
          rw [refused]
          exact ⟨collector, rfl, (Collector.SameRequests.refl collector).gains _⟩
      | ok template =>
          rw [← template_of_label told]
          exact Counting.measure_gains keeps sound steady isHttp isSeen told
    rcases gains with ⟨after, isOn, gains⟩
    exact ⟨after, isOn, fun _ => gains, fun unseen => absurd isSeen unseen⟩
  · rcases Counting.measure_unseen keeps isHttp isSeen
      ⟨request.method, Routing.template service.routes request⟩ with ⟨after, isOn, gains⟩
    exact ⟨after, isOn, fun seen => absurd seen isSeen, fun _ => gains⟩

/-- A request ends with an answer that was sent, behind which nothing is raised but what the answer
leaves behind, or with something raised in place of an answer. -/
theorem parts_conclude (step : Traced Outcome) :
    (∃ response, step.result = .ok response ∧
      (conclude step).result = ⟨some response, response.trailing⟩) ∨
      (step.result.status? = none ∧ (conclude step).result.raised ≠ none ∧
        ∀ response, (conclude step).result.response = some response →
          response.trailing = none) := by
  unfold conclude
  rcases step with ⟨outcome, calls, logs⟩
  cases outcome with
  | ok response =>
      refine Or.inl ⟨response, rfl, ?_⟩
      dsimp only
      split
      · rename_i quiet
        rw [quiet]
        rfl
      · rename_i raised behind
        rw [behind]
        rfl
  | error raised =>
      have unspoken (response : Response)
          (made : (Response.ofServiceError internalError).toOption = some response) :
          response.trailing = none := by
        cases own : Response.ofServiceError internalError with
        | error fault =>
            rw [own] at made
            cases made
        | ok answer =>
            rw [own] at made
            cases made
            exact (Response.parts_of_ofServiceError own).2.2
      refine Or.inr ⟨rfl, ?_, ?_⟩
      · cases raised <;> exact Option.some_ne_none _
      · cases raised with
        | abandoned => exact fun _ sent => by cases sent
        | _ => exact unspoken

/-- Where nothing comes out of the service, the answer leaves nothing behind. -/
theorem trailing_of_quiet {response : Response} {conclusion : Conclusion}
    (ends : (service.handle surroundings instruments request).2.result = conclusion)
    (sent : conclusion.response = some response) (quiet : conclusion.raised = none) :
    response.trailing = none := by
  rw [← ends] at sent quiet
  unfold handle at sent quiet
  cases isHttp : request.isHttp with
  | false =>
      rw [isHttp] at sent
      cases sent
  | true =>
      simp only [isHttp, if_true] at sent quiet
      rcases parts_conclude (service.layers surroundings instruments request).2 with
        ⟨own, _, concluded⟩ | ⟨_, loud, _⟩
      · rw [concluded] at sent quiet
        cases sent
        exact quiet
      · exact absurd quiet loud

/-- An answer is counted and timed once under its label, or not at all. It is counted exactly when
its URL can be read, its path does not end like the one for the metrics, and nothing was raised
before the answer was sent: what comes out of the service is what the answer leaves behind. -/
theorem answer_counted_iff {collector : Collector} {watch : Stopwatch} {response : Response}
    (sound : collector.IsSound) (steady : watch.IsSteady) (isHttp : request.isHttp = true)
    (sent : (service.handle surroundings ⟨some collector, watch⟩ request).2.result.response =
      some response) :
    ∃ after,
      (service.handle surroundings ⟨some collector, watch⟩ request).1.collector = some after ∧
      (collector.Gains after ⟨request.method, Routing.template service.routes request⟩
          (some response.status.shown) ∨
        collector.Gains after ⟨request.method, Routing.template service.routes request⟩ none) ∧
      (collector.Gains after ⟨request.method, Routing.template service.routes request⟩
          (some response.status.shown) ↔
        (∃ path, request.urlPath = .ok path ∧
          Text.endsWith path Counting.metricsSuffix = false) ∧
          (service.handle surroundings ⟨some collector, watch⟩ request).2.result.raised =
            response.trailing) := by
  rw [handle, if_pos isHttp] at sent ⊢
  rcases @layers_gains service surroundings request collector watch sound steady isHttp with
    ⟨after, isOn, seen, unseen⟩
  refine ⟨after, isOn, ?_⟩
  rcases parts_conclude (service.layers surroundings ⟨some collector, watch⟩ request).2 with
    ⟨own, answered, concluded⟩ | ⟨unanswered, loud, unspoken⟩
  · rw [concluded] at sent ⊢
    cases sent
    rw [answered] at seen
    by_cases isSeen : Counting.IsSeen request
    · have gains := seen isSeen
      exact ⟨Or.inl gains, fun _ => ⟨isSeen, rfl⟩, fun _ => gains⟩
    · refine ⟨Or.inr (unseen isSeen), ?_, fun expected => absurd expected.1 isSeen⟩
      intro counted
      cases counted.status?_eq (unseen isSeen)
  · have gains : collector.Gains after
        ⟨request.method, Routing.template service.routes request⟩ none := by
      by_cases isSeen : Counting.IsSeen request
      · rw [unanswered] at seen
        exact seen isSeen
      · exact unseen isSeen
    refine ⟨Or.inr gains, ?_, ?_⟩
    · intro counted
      cases counted.status?_eq gains
    · intro expected
      rw [unspoken response sent] at expected
      exact absurd expected.2 loud

/-- A request without credentials. -/
def strangerRequest (path : Text) : Request := getRequest path []

/-- A request for a profile with a token whose end is null. -/
def endlessRequest : Request :=
  { strangerRequest "/api/v1/drivers/me" with
    headers := [(AuthLayer.credentialHeader, "Bearer " ++ AuthLayer.endlessToken)] }

theorem isSteady_gauged : gauged.watch.IsSteady := by
  unfold Stopwatch.IsSteady
  decide

theorem stranger_counted :
    ∃ response after,
      ((sample .absent).handle calm gauged (strangerRequest "/api/v1/drivers/me")).2.result =
        ⟨some response, none⟩ ∧
      ((sample .absent).handle calm gauged (strangerRequest "/api/v1/drivers/me")).1.collector =
        some after ∧
      Collector.empty.Gains after ⟨"GET", "/api/v1/drivers/me"⟩ (some response.status.shown) := by
  have sentTest : ((sample .absent).handle calm gauged
      (strangerRequest "/api/v1/drivers/me")).2.result.response.isSome = true := by
    decide +kernel
  have quietTest : ((sample .absent).handle calm gauged
      (strangerRequest "/api/v1/drivers/me")).2.result.raised.isNone = true := by
    decide +kernel
  rcases Option.isSome_iff_exists.1 sentTest with ⟨response, sent⟩
  have quiet := Option.isNone_iff_eq_none.1 quietTest
  rcases answer_counted_iff Collector.isSound_empty isSteady_gauged rfl sent with
    ⟨after, isOn, _, counted⟩
  have unspoken := trailing_of_quiet rfl sent quiet
  refine ⟨response, after, ?_, isOn, counted.2 ⟨⟨_, rfl, by decide⟩, quiet.trans unspoken.symm⟩⟩
  rw [← sent, ← quiet]

theorem exists_not_gained {label : RequestLabel} (answer : StoreAnswer)
    (test : (match (sample answer).handle calm gauged request with
      | (after, step) => step.result.response.isSome &&
          after.collector.map (·.measured label) = some 0) = true) :
    ∃ response after,
      ((sample answer).handle calm gauged request).2.result.response = some response ∧
      ((sample answer).handle calm gauged request).1.collector = some after ∧
      ¬Collector.empty.Gains after label (some response.status.shown) := by
  simp only [Bool.and_eq_true, decide_eq_true_iff] at test
  rcases test with ⟨sent, untimed⟩
  rcases Option.isSome_iff_exists.1 sent with ⟨response, answered⟩
  rcases Option.map_eq_some_iff.1 untimed with ⟨after, isOn, none⟩
  refine ⟨response, after, answered, isOn, ?_⟩
  intro gains
  have once := gains.measured label
  rw [none] at once
  simp at once

/-- Neither the refusal of a request for a namesake of the metrics below another path is counted,
nor what stands for something unexpected on the way to a profile. -/
theorem answers_not_counted :
    (Routing.destination (sample .absent).routes (strangerRequest "/api/v1/drivers/metrics") =
        .nowhere ∧
      ∃ response after,
        ((sample .absent).handle calm gauged
          (strangerRequest "/api/v1/drivers/metrics")).2.result.response = some response ∧
        ((sample .absent).handle calm gauged
          (strangerRequest "/api/v1/drivers/metrics")).1.collector = some after ∧
        ¬Collector.empty.Gains after ⟨"GET", Routing.unmatched⟩ (some response.status.shown)) ∧
      ∃ response after,
        ((sample .absent).handle calm gauged endlessRequest).2.result.response = some response ∧
        ((sample .absent).handle calm gauged endlessRequest).1.collector = some after ∧
        ¬Collector.empty.Gains after ⟨"GET", "/api/v1/drivers/me"⟩
          (some response.status.shown) := by
  refine ⟨⟨?_, ?_⟩, ?_⟩
  · change Routing.destination (Routing.routes "/api/v1") _ = _
    decide
  · exact exists_not_gained .absent (by decide +kernel)
  · exact exists_not_gained .absent (by decide +kernel)

end Service

end FleetGate
