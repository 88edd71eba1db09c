import FleetGate.Proofs.Auth.Failure
import FleetGate.Proofs.Database.Counts
import FleetGate.Proofs.Metrics.Labels
import FleetGate.Service.Endpoint

/-!
# A scrape

A scrape asks the database for the drivers that are online, and when it has an answer it takes the
counts over into the collector and exposes the collector (`Service.resumed`). The reports about
online drivers are replaced as a whole or not at all. If nothing could be looked up the collector is
exposed as it is, and after any other error the scrape ends without an answer. What is exposed can
be sent if and only if all labels can be written (`ScrapeReport.IsFaithful.isShown_iff`).
-/

namespace FleetGate

/-- What comes of asking for the drivers that are online, by fleet. -/
abbrev OnlineAnswer := Except Raised (List (Fleet × Nat))

/-- A mapping has one entry for each fleet. -/
def OnlineAnswer.IsMapping (answer : OnlineAnswer) : Prop :=
  ∀ counts, answer = .ok counts → (counts.map Prod.fst).Nodup

/-! ## The database answers with mappings -/

namespace Database

/-- The rows of a fleet are counted once. -/
theorem isMapping_onlineByFleet (database : Database) :
    OnlineAnswer.IsMapping database.onlineByFleet :=
  fun _ answered => nodup_counts answered

end Database

/-! ## Taking over a mapping -/

namespace Children

variable {κ α : Type} [DecidableEq κ]

/-- A new child stands behind the others. -/
theorem update_of_notMem {key : κ} {children : Children κ α}
    (fresh : key ∉ children.map Prod.fst) (standard : α) (change : α → α) :
    update key standard change children = children ++ [(key, change standard)] := by
  induction children with
  | nil => rfl
  | cons child rest ih =>
      rcases child with ⟨own, value⟩
      rw [List.map_cons, List.mem_cons, not_or] at fresh
      rw [update, if_neg (Ne.symm fresh.1), ih fresh.2, List.cons_append]

/-- Values for different keys that are put in one after the other are the children. -/
theorem foldl_update {values : List (κ × α)} {children : Children κ α} (standard : α)
    (keys : ((children ++ values).map Prod.fst).Nodup) :
    values.foldl (fun done entry => done.update entry.1 standard fun _ => entry.2) children =
      children ++ values := by
  induction values generalizing children with
  | nil => exact (List.append_nil children).symm
  | cons entry rest ih =>
      have fresh : entry.1 ∉ children.map Prod.fst := by
        rw [List.map_append, List.nodup_append] at keys
        intro listed
        exact keys.2.2 _ listed _ (List.mem_map_of_mem List.mem_cons_self) rfl
      rw [List.foldl_cons, update_of_notMem fresh, ih (by simpa using keys)]
      simp

end Children

namespace Collector

variable {collector : Collector} {counts : List (Fleet × Nat)}

theorem setOnline_onlineReports (collector : Collector) (keys : (counts.map Prod.fst).Nodup) :
    collector.setOnline (Service.onlineReports counts) =
      { collector with online := Service.onlineReports counts } := by
  have distinct : ((Service.onlineReports counts).map Prod.fst).Nodup := by
    have injective : Function.Injective (Vocabulary.text : Fleet → Text) := by
      intro fleet other same
      cases fleet <;> cases other <;> first | rfl | exact absurd same (by decide)
    have texts := List.Nodup.map injective keys
    rw [List.map_map] at texts
    rw [Service.onlineReports, List.map_map]
    exact texts
  have filled := @Children.foldl_update _ _ _ (Service.onlineReports counts) [] 0
    (by simpa using distinct)
  rw [setOnline_eq, filled, List.nil_append]

/-- The samples of the drivers that are online. -/
def onlineSamples (collector : Collector) : List Sample :=
  (collector.families.filter fun family => family.name = "online_drivers_total").flatMap (·.samples)

theorem onlineSamples_eq (collector : Collector) :
    collector.onlineSamples = collector.online.map fun entry =>
      ⟨"online_drivers_total", Sample.fleetLabels entry.1, entry.2⟩ := by
  simp [onlineSamples, families, Sample.fleetLabels]

end Collector

/-! ## One scrape -/

/-- A collector is exposed with status 200. -/
def Outcome.exposing (collector : Collector) : Outcome :=
  .ofResponse (Response.ofText 200 Service.expositionText collector.exposition)

theorem Outcome.exposing_eq_ok {collector : Collector} {response : Response}
    (sent : exposing collector = .ok response) :
    response.status = 200 ∧ response.body = collector.exposition := by
  unfold exposing Response.ofText at sent
  split at sent
  · cases sent
  · cases sent
    exact ⟨rfl, rfl⟩

/-- A collector can be exposed if and only if all its labels can be written. -/
theorem Outcome.exists_exposing_iff {collector : Collector} :
    (∃ response, exposing collector = .ok response) ↔
      ∀ sample ∈ collector.samples, Sample.AreLegible sample.labels := by
  rw [← Collector.isScalar_exposition,
    ← @Response.exists_ofText_eq_ok_iff 200 Service.expositionText, exposing]
  cases Response.ofText 200 Service.expositionText collector.exposition with
  | error fault => simp [ofResponse]
  | ok response => simp [ofResponse]

namespace Service

/-- A scrape from the moment on at which it knows what came of asking, if it asked at all. -/
def resumed (answer? : Option OnlineAnswer) (collector : Collector) : Collector × Traced Outcome :=
  match (answer?.map (refreshed collector)).getD (.ok (collector, [])) with
  | .error raised => (collector, .quiet (.error raised))
  | .ok (after, logs) => (after, .logging (.exposing after) logs)

section

variable (collector : Collector) {raised : Raised}

theorem resumed_none : resumed none collector = (collector, .logging (.exposing collector) []) := by
  rw [resumed, Option.map_none, Option.getD_none]

theorem resumed_ok (counts : List (Fleet × Nat)) :
    resumed (some (.ok counts)) collector =
      (collector.setOnline (onlineReports counts),
        .logging (.exposing (collector.setOnline (onlineReports counts))) []) := by
  rw [resumed, Option.map_some, Option.getD_some, refreshed]

theorem resumed_lookup (message : Text) :
    ∃ logs, resumed (some (.error (.fault ⟨.principalLookup, message⟩))) collector =
      (collector, .logging (.exposing collector) logs) := by
  rw [resumed, Option.map_some, Option.getD_some, refreshed]
  exact ⟨_, rfl⟩

theorem resumed_error (other : ∀ message, raised ≠ .fault ⟨.principalLookup, message⟩) :
    resumed (some (.error raised)) collector = (collector, .quiet (.error raised)) := by
  have fails : refreshed collector (.error raised) = .error raised := by
    unfold refreshed
    split
    · rename_i answered
      cases answered
    · rename_i message answered
      exact absurd (Except.error.inj answered) (other message)
    · rename_i own _ answered
      rw [Except.error.inj answered]
  rw [resumed, Option.map_some, Option.getD_some, fails]

end

/-- What a service on a database asks for, and others do not. -/
def asked? (service : Service) (database : Database) : Option OnlineAnswer :=
  if service.drivers.isDatabase then some database.onlineByFleet else none

/-- Without anything in between, the endpoint asks and goes on. -/
theorem metrics_eq (service : Service) (surroundings : Surroundings) (collector : Collector)
    (watch : Stopwatch) :
    service.metrics surroundings ⟨some collector, watch⟩ =
      (⟨some (resumed (service.asked? surroundings.database) collector).1, watch⟩,
        (resumed (service.asked? surroundings.database) collector).2) := by
  simp only [metrics, scraped, asked?, resumed]
  cases service.drivers.isDatabase with
  | false => rfl
  | true =>
      simp only [if_true, Option.map_some, Option.getD_some]
      cases refreshed collector surroundings.database.onlineByFleet with
      | error raised => rfl
      | ok done => rfl

end Service

/-- What is known about a scrape that is over. -/
structure ScrapeReport where
  answer? : Option OnlineAnswer
  before : Collector
  after : Collector
  outcome : Outcome

namespace ScrapeReport

/-- The scrape that goes on now, with what came of asking. -/
def make (answer? : Option OnlineAnswer) (collector : Collector) : ScrapeReport :=
  let (after, step) := Service.resumed answer? collector
  ⟨answer?, collector, after, step.result⟩

/-- Nothing came of asking but that the principals could not be looked up, or nothing was asked. -/
def IsUnanswered (report : ScrapeReport) : Prop :=
  report.answer? = none ∨
    ∃ message, report.answer? = some (.error (.fault ⟨.principalLookup, message⟩))

/-- The scrape took its mapping over as a whole or left the collector alone, and it exposed what was
in the collector then, unless there was an error of another kind. -/
structure IsFaithful (report : ScrapeReport) : Prop where
  others : report.after = { report.before with online := report.after.online }
  taken : ∀ counts, report.answer? = some (.ok counts) →
    (report.after.onlineSamples = counts.map fun (fleet, count) =>
      ⟨"online_drivers_total", Sample.fleetLabels (Vocabulary.text fleet), Float.ofNat count⟩) ∧
    report.outcome = .exposing report.after
  kept : report.IsUnanswered →
    report.after = report.before ∧ report.outcome = .exposing report.before
  failed : ∀ raised, report.answer? = some (.error raised) → ¬report.IsUnanswered →
    report.after = report.before ∧ report.outcome = .error raised

/-- The scrape had no error of another kind. -/
def IsDone (report : ScrapeReport) : Prop :=
  report.IsUnanswered ∨ ∃ counts, report.answer? = some (.ok counts)

/-- The scrape was answered with status 200 and what was in the collector then. -/
def IsShown (report : ScrapeReport) : Prop :=
  ∃ response, report.outcome = .ok response ∧ response.status = 200 ∧
    response.body = report.after.exposition

theorem IsFaithful.exposes {report : ScrapeReport} (faithful : report.IsFaithful)
    (done : report.IsDone) : report.outcome = .exposing report.after := by
  rcases done with unanswered | ⟨counts, answered⟩
  · rw [(faithful.kept unanswered).1]
    exact (faithful.kept unanswered).2
  · exact (faithful.taken counts answered).2

/-- A scrape without an error of another kind fails only over a label that cannot be written. -/
theorem IsFaithful.isShown_iff {report : ScrapeReport} (faithful : report.IsFaithful)
    (done : report.IsDone) :
    report.IsShown ↔ ∀ sample ∈ report.after.samples, Sample.AreLegible sample.labels := by
  rw [← Outcome.exists_exposing_iff, IsShown, faithful.exposes done]
  constructor
  · rintro ⟨response, sent, _⟩
    exact ⟨response, sent⟩
  · rintro ⟨response, sent⟩
    exact ⟨response, sent, Outcome.exposing_eq_ok sent⟩

theorem isFaithful_make {answer? : Option OnlineAnswer} (collector : Collector)
    (isMapping : ∀ answer, answer? = some answer → answer.IsMapping) :
    (make answer? collector).IsFaithful := by
  rcases answer? with _ | raised | counts
  · rw [make, Service.resumed_none]
    refine ⟨rfl, ?_, ?_, ?_⟩
    · intro counts asked
      cases asked
    · intro _
      simp only [Traced.logging, and_self]
    · intro raised asked
      cases asked
  · by_cases lookup : ∃ message, raised = .fault ⟨.principalLookup, message⟩
    · rcases lookup with ⟨message, rfl⟩
      rcases Service.resumed_lookup collector message with ⟨logs, resumed⟩
      rw [make, resumed]
      refine ⟨rfl, ?_, ?_, ?_⟩
      · intro counts answered
        cases answered
      · intro _
        simp only [Traced.logging, and_self]
      · intro own _ answered
        exact absurd (Or.inr ⟨message, rfl⟩) answered
    · rw [make, Service.resumed_error collector fun message same => lookup ⟨message, same⟩]
      refine ⟨rfl, ?_, ?_, ?_⟩
      · intro counts answered
        cases answered
      · rintro (none | ⟨message, same⟩)
        · cases none
        · exact absurd ⟨message, Except.error.inj (Option.some.inj same)⟩ lookup
      · intro own answered _
        cases answered
        exact ⟨rfl, rfl⟩
  · have whole := collector.setOnline_onlineReports (isMapping _ rfl counts rfl)
    rw [make, Service.resumed_ok, whole]
    refine ⟨rfl, ?_, ?_, ?_⟩
    · intro own answered
      have same : counts = own := Except.ok.inj (Option.some.inj answered)
      subst same
      constructor
      · rw [Collector.onlineSamples_eq, Service.onlineReports, List.map_map]
        rfl
      · simp only [Traced.logging]
    · rintro (none | ⟨message, same⟩)
      · cases none
      · cases same
    · intro raised answered
      cases answered

/-- What is in the collector after a scrape. -/
theorem after_make {answer? : Option OnlineAnswer} (collector : Collector)
    (isMapping : ∀ answer, answer? = some answer → answer.IsMapping) :
    (make answer? collector).after =
      match answer?.bind Except.toOption with
      | some counts => { collector with online := Service.onlineReports counts }
      | none => collector := by
  have faithful := isFaithful_make collector isMapping
  rcases answer? with _ | raised | counts
  · exact (faithful.kept (Or.inl rfl)).1
  · by_cases unanswered : (make (some (.error raised)) collector).IsUnanswered
    · exact (faithful.kept unanswered).1
    · exact (faithful.failed raised rfl unanswered).1
  · have whole := collector.setOnline_onlineReports (isMapping _ rfl counts rfl)
    rw [make, Service.resumed_ok, whole]
    rfl

/-- The words of the fleets are legible. -/
theorem isLabelled_after {answer? : Option OnlineAnswer} {collector : Collector}
    (isMapping : ∀ answer, answer? = some answer → answer.IsMapping)
    (legible : collector.IsLabelled Sample.AreLegible) :
    (make answer? collector).after.IsLabelled Sample.AreLegible := by
  rw [after_make collector isMapping]
  cases answer?.bind Except.toOption with
  | none => exact legible
  | some counts =>
      refine { legible with online := ?_ }
      intro entry listed
      rcases List.mem_map.1 listed with ⟨⟨fleet, count⟩, _, rfl⟩
      intro label label_mem
      rw [List.mem_singleton.1 label_mem]
      exact ⟨Text.isScalar_ofString _, Text.isScalar_ofString _⟩

end ScrapeReport

end FleetGate
