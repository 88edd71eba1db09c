import FleetGate.Proofs.Service.Layers
import FleetGate.Proofs.Service.Scrape
import Mathlib.Logic.Relation

/-!
# Scrapes that overlap

While a scrape waits for its answer, other scrapes may come in or be over, requests go on to be
counted, and the health of the infrastructure is noted. `Scraping` keeps the collector together with
all scrapes so far, and `Scraping.Step` is what can happen next. What a scrape does once it has its
answer is one step, since it waits for nothing any more.

The invariant is that the reports about online drivers are those of one mapping, the one that was
taken over last, and that everything else in the collector is as if there had been no scrapes
(`Scraping.IsWhole`).
-/

namespace FleetGate

/-- How far a scrape is. It waits until it is told what came of asking, and it may be given up while
it waits. -/
inductive Scrape where
  | asking
  | told (answer : OnlineAnswer)
  | settled (report : ScrapeReport)
  | abandoned

/-- The scrape has something to wait for. -/
def Scrape.isWaiting : Scrape → Bool
  | asking | told _ => true
  | settled _ | abandoned => false

/-- A collector with all its scrapes, the mappings that they took over, the last one last, and what
else has been done to the collector. -/
structure Scraping where
  collector : Collector
  scrapes : List Scrape
  mappings : List (List (Fleet × Nat))
  others : List MetricEvent

namespace Scraping

/-- Before the first scrape of a collector. -/
def after (history : List MetricEvent) : Scraping := ⟨.run history, [], [], []⟩

/-- A scrape between others goes on to its end. -/
def settle (state : Scraping) (earlier later : List Scrape) (answer? : Option OnlineAnswer) :
    Scraping :=
  let report := ScrapeReport.make answer? state.collector
  ⟨report.after, earlier ++ .settled report :: later,
    state.mappings ++ (answer?.bind Except.toOption).toList, state.others⟩

/-- What can happen next: a scrape comes in, and asks if there is a database, or a scrape is told
what came of asking, goes on, or is given up. In between the collector counts requests and notes the
health of the infrastructure. -/
inductive Step (service : Service) (state : Scraping) : Scraping → Prop where
  | ask (hasDatabase : service.drivers.isDatabase = true) :
      Step service state { state with scrapes := state.scrapes ++ [.asking] }
  | pass (hasNone : service.drivers.isDatabase = false) :
      Step service state (state.settle state.scrapes [] none)
  | tell {earlier later : List Scrape} (asks : state.scrapes = earlier ++ .asking :: later)
      (answer : OnlineAnswer) (isMapping : answer.IsMapping) :
      Step service state { state with scrapes := earlier ++ .told answer :: later }
  | resume {earlier later : List Scrape} {answer : OnlineAnswer}
      (isTold : state.scrapes = earlier ++ .told answer :: later) :
      Step service state (state.settle earlier later (some answer))
  | abandon {earlier later : List Scrape} {scrape : Scrape}
      (waits : state.scrapes = earlier ++ scrape :: later) (isWaiting : scrape.isWaiting = true) :
      Step service state { state with scrapes := earlier ++ .abandoned :: later }
  | beside (event : MetricEvent) (noMapping : event.mapping? = none) :
      Step service state
        { state with collector := state.collector.apply event, others := state.others ++ [event] }

/-- What can happen in the course of time. -/
def Reaches (service : Service) : Scraping → Scraping → Prop :=
  Relation.ReflTransGen (Step service)

/-- A scrape that nothing comes in between of is what the endpoint for metrics does. -/
theorem reaches_metrics (service : Service) (surroundings : Surroundings) (watch : Stopwatch)
    (state : Scraping) :
    Reaches service state
        (state.settle state.scrapes [] (service.asked? surroundings.database)) ∧
      (service.metrics surroundings ⟨some state.collector, watch⟩).1.collector =
        some (ScrapeReport.make (service.asked? surroundings.database) state.collector).after ∧
      (service.metrics surroundings ⟨some state.collector, watch⟩).2.result =
        (ScrapeReport.make (service.asked? surroundings.database) state.collector).outcome := by
  rw [Service.metrics_eq]
  refine ⟨?_, rfl, rfl⟩
  cases source : service.drivers.isDatabase with
  | false =>
      rw [Service.asked?, source, if_neg Bool.false_ne_true]
      exact .single (.pass source)
  | true =>
      rw [Service.asked?, source, if_pos rfl]
      let answer := surroundings.database.onlineByFleet
      let asking : Scraping := { state with scrapes := state.scrapes ++ [.asking] }
      let told : Scraping := { state with scrapes := state.scrapes ++ [.told answer] }
      have asks : Step service state asking := .ask source
      have tells : Step service asking told :=
        .tell rfl answer surroundings.database.isMapping_onlineByFleet
      exact ((Relation.ReflTransGen.single asks).tail tells).tail (.resume rfl)

/-- The reports about online drivers: those of the last mapping that was taken over. -/
def online (history : List MetricEvent) (mappings : List (List (Fleet × Nat))) :
    Children Text Float :=
  (mappings.getLast?.map Service.onlineReports).getD (Collector.run history).online

/-- What holds at all times after a history. -/
structure IsWhole (history : List MetricEvent) (state : Scraping) : Prop where
  collector : state.collector =
    { Collector.run (history ++ state.others) with online := online history state.mappings }
  told : ∀ answer, .told answer ∈ state.scrapes → answer.IsMapping
  reports : ∀ report, .settled report ∈ state.scrapes → report.IsFaithful
  mappings : ∀ counts ∈ state.mappings,
    ∃ report, .settled report ∈ state.scrapes ∧ report.answer? = some (.ok counts)
  legible : (∀ event ∈ history ++ state.others, event.IsLabelled Sample.AreLegible) →
    state.collector.IsLabelled Sample.AreLegible ∧
      ∀ report, .settled report ∈ state.scrapes → report.after.IsLabelled Sample.AreLegible

variable {service : Service} {history : List MetricEvent} {state next : Scraping}

theorem isWhole_after (history : List MetricEvent) : (after history).IsWhole history := by
  refine ⟨?_, ?_, ?_, ?_, ?_⟩
  · rw [after, List.append_nil]
    rfl
  · intro answer listed
    cases listed
  · intro report listed
    cases listed
  · intro counts listed
    cases listed
  · intro legible
    rw [after, List.append_nil] at legible
    refine ⟨Collector.IsLabelled.foldl .empty legible, ?_⟩
    intro report listed
    cases listed

/-- Scrapes that wait may come and go. -/
theorem IsWhole.withScrapes (whole : state.IsWhole history) {scrapes : List Scrape}
    (told : ∀ answer, .told answer ∈ scrapes → answer.IsMapping)
    (same : ∀ report, .settled report ∈ scrapes ↔ .settled report ∈ state.scrapes) :
    IsWhole history { state with scrapes := scrapes } := by
  refine ⟨whole.collector, told, ?_, ?_, ?_⟩
  · intro report listed
    exact whole.reports report ((same report).1 listed)
  · intro counts listed
    rcases whole.mappings counts listed with ⟨report, isSettled, answered⟩
    exact ⟨report, (same report).2 isSettled, answered⟩
  · intro legible
    rcases whole.legible legible with ⟨now, reports⟩
    exact ⟨now, fun report listed => reports report ((same report).1 listed)⟩

/-- A scrape that is over has taken its mapping over, if it got one. -/
theorem IsWhole.settle {earlier later : List Scrape} {answer? : Option OnlineAnswer}
    (whole : state.IsWhole history)
    (others : ∀ scrape ∈ earlier ++ later, scrape ∈ state.scrapes)
    (kept : ∀ report, .settled report ∈ state.scrapes → .settled report ∈ earlier ++ later)
    (isMapping : ∀ answer, answer? = some answer → answer.IsMapping) :
    (state.settle earlier later answer?).IsWhole history := by
  have listed (scrape : Scrape) : scrape ∈ (state.settle earlier later answer?).scrapes ↔
      scrape = .settled (.make answer? state.collector) ∨ scrape ∈ earlier ++ later := by
    simp only [Scraping.settle, List.mem_append, List.mem_cons]
    tauto
  have after := ScrapeReport.after_make state.collector isMapping
  refine ⟨?collector, ?told, ?reports, ?mappings, ?legible⟩
  case collector =>
    change (ScrapeReport.make answer? state.collector).after = _
    rw [after, whole.collector]
    cases taken : answer?.bind Except.toOption with
    | none => simp [Scraping.settle, taken, online]
    | some counts => simp [Scraping.settle, taken, online]
  case told =>
    intro answer waits
    rcases (listed _).1 waits with same | old
    · cases same
    · exact whole.told answer (others _ old)
  case reports =>
    intro report isSettled
    rcases (listed _).1 isSettled with same | old
    · cases same
      exact ScrapeReport.isFaithful_make state.collector isMapping
    · exact whole.reports report (others _ old)
  case mappings =>
    intro counts taken
    rcases List.mem_append.1 taken with old | new
    · rcases whole.mappings counts old with ⟨report, isSettled, answered⟩
      exact ⟨report, (listed _).2 (Or.inr (kept report isSettled)), answered⟩
    · refine ⟨_, (listed _).2 (Or.inl rfl), ?_⟩
      rcases Option.bind_eq_some_iff.1 (Option.mem_toList.1 new) with ⟨answer, asked, isOk⟩
      cases answer with
      | error raised => cases isOk
      | ok own =>
          cases isOk
          exact asked
  case legible =>
    intro legible
    rcases whole.legible legible with ⟨now, reports⟩
    have own := ScrapeReport.isLabelled_after isMapping now
    refine ⟨own, ?_⟩
    intro report isSettled
    rcases (listed _).1 isSettled with same | old
    · cases same
      exact own
    · exact reports report (others _ old)

theorem IsWhole.beside (whole : state.IsWhole history) {event : MetricEvent}
    (noMapping : event.mapping? = none) :
    IsWhole history
      { state with
        collector := state.collector.apply event
        others := state.others ++ [event] } := by
  refine ⟨?_, whole.told, whole.reports, whole.mappings, ?_⟩
  · -- An operation without a mapping neither reads nor changes the reports about online drivers.
    have apart (collector : Collector) (reports : Children Text Float) :
        { collector with online := reports }.apply event =
          { collector.apply event with online := reports } := by
      cases event with
      | online counts => cases noMapping
      | health label healthy latency =>
          simp only [Collector.apply, Collector.setHealth, Collector.putLatency]
          split <;> rfl
      | _ => rfl
    have next : Collector.run (history ++ (state.others ++ [event])) =
        (Collector.run (history ++ state.others)).apply event := by
      rw [← List.append_assoc, Collector.run, List.foldl_append]
      rfl
    change state.collector.apply event =
      { Collector.run (history ++ (state.others ++ [event])) with
        online := online history state.mappings }
    rw [next, ← apart, ← whole.collector]
  · intro legible
    rw [← List.append_assoc] at legible
    rcases List.forall_mem_append.1 legible with ⟨earlier, last⟩
    rcases whole.legible earlier with ⟨now, reports⟩
    exact ⟨now.apply (List.forall_mem_singleton.1 last), reports⟩

/-- Whatever happens next preserves the invariant. -/
theorem Step.isWhole (step : Step service state next) (whole : state.IsWhole history) :
    next.IsWhole history := by
  cases step with
  | ask hasDatabase =>
      refine whole.withScrapes ?_ ?_
      · intro answer waits
        exact whole.told answer (by simpa using waits)
      · simp
  | pass hasNone =>
      refine whole.settle ?_ ?_ ?_
      · simp
      · simp
      · intro answer asked
        cases asked
  | @tell earlier later asks answer isMapping =>
      refine whole.withScrapes ?_ ?_
      · intro own listed
        simp only [List.mem_append, List.mem_cons, Scrape.told.injEq] at listed
        rcases listed with old | rfl | old
        · exact whole.told own (by simp [asks, old])
        · exact isMapping
        · exact whole.told own (by simp [asks, old])
      · simp [asks]
  | @resume earlier later answer isTold =>
      refine whole.settle ?_ ?_ ?_
      · intro scrape listed
        rw [isTold]
        simp only [List.mem_append, List.mem_cons] at listed ⊢
        tauto
      · simp [isTold]
      · intro own asked
        cases asked
        exact whole.told answer (by simp [isTold])
  | @abandon earlier later scrape waits isWaiting =>
      refine whole.withScrapes ?_ ?_
      · intro answer listed
        apply whole.told answer
        simp only [waits, List.mem_append, List.mem_cons, reduceCtorEq, false_or] at listed ⊢
        exact listed.imp_right Or.inr
      · intro report
        have isOther : .settled report ≠ scrape := by
          rintro rfl
          cases isWaiting
        simp [waits, isOther]
  | beside event noMapping => exact whole.beside noMapping

theorem Reaches.isWhole (reaches : Reaches service state next) (whole : state.IsWhole history) :
    next.IsWhole history := by
  induction reaches with
  | refl => exact whole
  | tail _ step ih => exact step.isWhole ih

/-- However scrapes overlap, the reports about online drivers are those of the mapping that was
taken over last, and a scrape changes nothing else. Each scrape exposes its own mapping, or what was
in the collector anyway if there is none. It is answered with 200 if and only if all labels in the
collector can be written, as they can if the operations named no others. -/
theorem scrapes_take_whole_mappings (reaches : Reaches service (after history) state) :
    state.collector = { Collector.run (history ++ state.others) with
      online := online history state.mappings } ∧
    (∀ counts ∈ state.mappings,
      ∃ report, .settled report ∈ state.scrapes ∧ report.answer? = some (.ok counts)) ∧
    (∀ report, .settled report ∈ state.scrapes → report.IsFaithful) ∧
    (∀ next, Step service state next → next.others = state.others →
      next.collector = { state.collector with online := next.collector.online }) ∧
    (∀ report, .settled report ∈ state.scrapes → report.IsDone →
      (report.IsShown ↔ ∀ sample ∈ report.after.samples, Sample.AreLegible sample.labels)) ∧
    ((∀ event ∈ history ++ state.others, event.IsLabelled Sample.AreLegible) →
      ∀ report, .settled report ∈ state.scrapes → report.IsDone → report.IsShown) := by
  have whole := reaches.isWhole (isWhole_after history)
  refine ⟨whole.collector, whole.mappings, whole.reports, ?_, ?_, ?_⟩
  · intro next step same
    have later := (step.isWhole whole).collector
    rw [later, whole.collector, same]
  · intro report isSettled done
    exact (whole.reports report isSettled).isShown_iff done
  · intro legible report isSettled done
    rw [(whole.reports report isSettled).isShown_iff done]
    intro sample listed
    exact ((whole.legible legible).2 report isSettled).areLegible listed

/-- A service that looks its drivers up in a database. -/
def databaseService : Service := { Service.sample .absent with drivers := .database }

/-- What the first of two scrapes is told. -/
def firstAnswer : OnlineAnswer := .ok [(.rsk, 2), (.kd, 1)]

/-- What the second of two scrapes is told, before the first one goes on. -/
def secondAnswer : OnlineAnswer := .ok [(.wei, 3)]

/-- The second of two scrapes is over before the first one. -/
theorem firstAnswer_stands :
    ∃ state, Reaches databaseService (after [.online [("KD", 5)]]) state ∧
      state.mappings = [[(.wei, 3)], [(.rsk, 2), (.kd, 1)]] ∧
      state.collector.onlineSamples =
        [⟨"online_drivers_total", Sample.fleetLabels "RSK", Float.ofNat 2⟩,
          ⟨"online_drivers_total", Sample.fleetLabels "KD", Float.ofNat 1⟩] := by
  have distinct : firstAnswer.IsMapping ∧ secondAnswer.IsMapping := by
    constructor
    · rintro counts ⟨⟩
      decide
    · rintro counts ⟨⟩
      decide
  let start := after [.online [("KD", 5)]]
  let told : Scraping := { start with scrapes := [.told firstAnswer, .told secondAnswer] }
  let second := told.settle [.told firstAnswer] [] (some secondAnswer)
  let first := second.settle [] second.scrapes.tail (some firstAnswer)
  have asks : Reaches databaseService start { start with scrapes := [.asking, .asking] } :=
    (Relation.ReflTransGen.single (.ask rfl)).tail (.ask rfl)
  have tells : Reaches databaseService start told :=
    (asks.tail (@Step.tell _ _ [] _ rfl firstAnswer distinct.1)).tail
      (@Step.tell _ _ [.told firstAnswer] _ rfl secondAnswer distinct.2)
  have reaches : Reaches databaseService start first :=
    (tells.tail (@Step.resume _ _ [.told firstAnswer] _ _ rfl)).tail
      (@Step.resume _ _ [] _ _ rfl)
  refine ⟨first, reaches, rfl, ?_⟩
  rw [Collector.onlineSamples_eq, (scrapes_take_whole_mappings reaches).1]
  rfl

/-- The label of a request whose method is half of a surrogate pair. -/
def brokenMethod : RequestLabel := ⟨[.surrogate 0], "/api/v1/health"⟩

/-- Such a request has been refused. -/
def brokenHistory : List MetricEvent :=
  [.started brokenMethod, .ended brokenMethod, .recorded brokenMethod "405" 0.25]

/-- After that a scrape that asks for nothing is not answered with 200, nor at all. -/
theorem brokenMethod_not_shown :
    ∃ state report, Reaches (Service.sample .absent) (after brokenHistory) state ∧
      .settled report ∈ state.scrapes ∧ report.answer? = none ∧ report.IsUnanswered ∧
      ∀ response, report.outcome ≠ .ok response := by
  let report := ScrapeReport.make none (.run brokenHistory)
  have faithful : report.IsFaithful := by
    apply ScrapeReport.isFaithful_make
    intro answer asked
    cases asked
  have unanswered : report.IsUnanswered := Or.inl rfl
  refine ⟨_, report, .single (.pass rfl), List.mem_singleton.2 rfl, rfl, unanswered, ?_⟩
  intro response sent
  rw [faithful.exposes (Or.inl unanswered), (faithful.kept unanswered).1] at sent
  have legible := Outcome.exists_exposing_iff.1 ⟨response, sent⟩
  have listed : ∃ sample ∈ (Collector.run brokenHistory).samples,
      (Text.ofString "method", brokenMethod.method) ∈ sample.labels :=
    ⟨⟨"http_requests_total", _, _⟩,
      List.mem_flatMap.2 ⟨_, List.mem_cons_self, List.mem_singleton.2 rfl⟩, List.mem_cons_self⟩
  rcases listed with ⟨sample, sample_mem, label_mem⟩
  rcases Text.isScalar_singleton.1 (legible sample sample_mem _ label_mem).2 with ⟨char, same⟩
  cases same

end Scraping

end FleetGate
