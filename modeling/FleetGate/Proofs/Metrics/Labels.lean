import FleetGate.Proofs.Metrics.History
import FleetGate.Proofs.Text.Scalar

/-!
# The labels of a collector

The children of all metrics have labels, and an operation brings in no labels but those that it
names. So whatever holds of the labels that operations name holds of the labels of all children
(`Collector.IsLabelled`), and thereby of those of all samples.
-/

namespace FleetGate

namespace Children

variable {κ α : Type} [DecidableEq κ]

/-- Changing a child brings in no other key. -/
theorem key_of_mem_update {key : κ} {fresh : α} {change : α → α} {children : Children κ α}
    {child : κ × α} (listed : child ∈ update key fresh change children) :
    child.1 = key ∨ ∃ value, (child.1, value) ∈ children := by
  induction children with
  | nil =>
      rw [List.mem_singleton.1 listed]
      exact Or.inl rfl
  | cons first rest ih =>
      rcases first with ⟨own, value⟩
      rw [update] at listed
      split at listed
      · rename_i same
        rcases List.mem_cons.1 listed with rfl | later
        · exact Or.inl same
        · exact Or.inr ⟨child.2, List.mem_cons_of_mem _ later⟩
      · rcases List.mem_cons.1 listed with rfl | later
        · exact Or.inr ⟨value, List.mem_cons_self⟩
        · rcases ih later with same | ⟨other, stands⟩
          · exact Or.inl same
          · exact Or.inr ⟨other, List.mem_cons_of_mem _ stands⟩

/-- All keys of the children are allowed. -/
def Keyed (allowed : κ → Prop) (children : Children κ α) : Prop :=
  ∀ child ∈ children, allowed child.1

variable {allowed : κ → Prop} {children : Children κ α}

omit [DecidableEq κ] in
theorem keyed_nil : Keyed allowed ([] : Children κ α) := by
  simp [Keyed]

theorem Keyed.update (keyed : Keyed allowed children) {key : κ} (isAllowed : allowed key)
    (fresh : α) (change : α → α) : Keyed allowed (children.update key fresh change) := by
  intro child listed
  rcases key_of_mem_update listed with same | ⟨value, stands⟩
  · rw [same]
    exact isAllowed
  · exact keyed (child.1, value) stands

end Children

open Children

/-- The sample belongs to a child with these labels; in a bucket they stand behind its bound. -/
def Sample.IsOf (labels : Entries Text) (sample : Sample) : Prop :=
  (∃ name : String, sample.name = Text.ofString name) ∧
    (sample.labels = labels ∨
      ∃ bound, sample.labels = (Text.ofString "le", Histogram.boundLabel bound) :: labels)

/-- An operation names allowed labels only. -/
def MetricEvent.IsLabelled (allowed : Entries Text → Prop) (event : MetricEvent) : Prop :=
  ∀ name labels, (name, labels) ∈ event.named → allowed labels

/-- All children have allowed labels. -/
structure Collector.IsLabelled (allowed : Entries Text → Prop) (collector : Collector) : Prop where
  requests : collector.requests.Keyed fun label => allowed label.labels
  durations : collector.durations.Keyed fun label => allowed label.labels
  active : collector.active.Keyed fun label => allowed label.labels
  online : collector.online.Keyed fun fleet => allowed (Sample.fleetLabels fleet)
  health : collector.health.Keyed fun label => allowed label.labels
  latency : collector.latency.Keyed fun label => allowed label.labels

namespace Sample.IsOf

theorem plain (name : String) (labels : Entries Text) (value : Float) :
    Sample.IsOf labels ⟨Text.ofString name, labels, value⟩ :=
  ⟨⟨name, rfl⟩, Or.inl rfl⟩

theorem of_mem_samples {name : String} {labels : Entries Text} {histogram : Histogram}
    {sample : Sample} (sample_mem : sample ∈ histogram.samples name labels) :
    sample.IsOf labels := by
  simp only [Histogram.samples, List.mem_append, List.mem_map, List.mem_cons, List.not_mem_nil,
    or_false] at sample_mem
  rcases sample_mem with ⟨bucket, _, rfl⟩ | rfl | rfl
  · exact ⟨⟨_, rfl⟩, Or.inr ⟨bucket.1, rfl⟩⟩
  · exact .plain _ labels _
  · exact .plain _ labels _

end Sample.IsOf

namespace Collector.IsLabelled

variable {allowed : Entries Text → Prop} {collector : Collector} {event : MetricEvent}

theorem empty : Collector.empty.IsLabelled allowed :=
  ⟨keyed_nil, keyed_nil, keyed_nil, keyed_nil, keyed_nil, keyed_nil⟩

/-- An operation that names allowed labels keeps all labels allowed. -/
theorem apply (labelled : collector.IsLabelled allowed) (named : event.IsLabelled allowed) :
    (collector.apply event).IsLabelled allowed := by
  rcases labelled with ⟨requests, durations, active, online, health, latency⟩
  cases event with
  | started label =>
      have own := named _ _ List.mem_cons_self
      exact ⟨requests, durations, active.update own 0 _, online, health, latency⟩
  | ended label =>
      have own := named _ _ List.mem_cons_self
      exact ⟨requests, durations, active.update own 0 _, online, health, latency⟩
  | recorded label status duration =>
      have answer := named _ _ List.mem_cons_self
      have request := named _ _ (List.mem_cons_of_mem _ List.mem_cons_self)
      exact ⟨requests.update answer 0 _, durations.update request .empty _, active, online, health,
        latency⟩
  | online counts =>
      have filled (start : Children Text Float)
          (keyed : start.Keyed fun fleet => allowed (Sample.fleetLabels fleet)) :
          (counts.foldl (fun done entry => done.update entry.1 0 fun _ => entry.2) start).Keyed
            fun fleet => allowed (Sample.fleetLabels fleet) := by
        have own : ∀ entry ∈ counts, allowed (Sample.fleetLabels entry.1) :=
          fun entry listed => named _ _ (List.mem_map_of_mem listed)
        clear named
        induction counts generalizing start with
        | nil => exact keyed
        | cons entry rest ih =>
            rcases List.forall_mem_cons.1 own with ⟨first, others⟩
            exact ih _ (keyed.update first 0 _) others
      rw [Collector.apply, setOnline_eq]
      exact ⟨requests, durations, active, filled [] keyed_nil, health, latency⟩
  | health label healthy milliseconds =>
      have own := named _ _ List.mem_cons_self
      rw [Collector.apply, setHealth, putLatency]
      split
      · exact ⟨requests, durations, active, online, health.update own false _,
          latency.update own 0 _⟩
      · exact ⟨requests, durations, active, online, health.update own false _, latency⟩

theorem foldl {events : List MetricEvent} (labelled : collector.IsLabelled allowed)
    (named : ∀ event ∈ events, event.IsLabelled allowed) :
    (events.foldl Collector.apply collector).IsLabelled allowed := by
  induction events generalizing collector with
  | nil => exact labelled
  | cons event rest ih =>
      rcases List.forall_mem_cons.1 named with ⟨first, others⟩
      exact ih (labelled.apply first) others

/-- Every sample belongs to a child, whose labels are allowed. -/
theorem exists_labels (labelled : collector.IsLabelled allowed) {sample : Sample}
    (listed : sample ∈ collector.samples) : ∃ labels, allowed labels ∧ sample.IsOf labels := by
  rcases List.mem_flatMap.1 listed with ⟨family, ofCollector, sample_mem⟩
  simp only [families, List.mem_cons, List.not_mem_nil, or_false] at ofCollector
  rcases ofCollector with rfl | rfl | rfl | rfl | rfl | rfl
  · rcases List.mem_map.1 sample_mem with ⟨child, child_mem, rfl⟩
    exact ⟨_, labelled.requests child child_mem, .plain _ _ _⟩
  · rcases List.mem_flatMap.1 sample_mem with ⟨child, child_mem, inHistogram⟩
    exact ⟨_, labelled.durations child child_mem, .of_mem_samples inHistogram⟩
  · rcases List.mem_map.1 sample_mem with ⟨child, child_mem, rfl⟩
    exact ⟨_, labelled.active child child_mem, .plain _ _ _⟩
  · rcases List.mem_map.1 sample_mem with ⟨child, child_mem, rfl⟩
    exact ⟨_, labelled.online child child_mem, .plain _ _ _⟩
  · rcases List.mem_map.1 sample_mem with ⟨child, child_mem, rfl⟩
    exact ⟨_, labelled.health child child_mem, .plain _ _ _⟩
  · rcases List.mem_map.1 sample_mem with ⟨child, child_mem, rfl⟩
    exact ⟨_, labelled.latency child child_mem, .plain _ _ _⟩

end Collector.IsLabelled

/-! ## Labels that can be written -/

namespace Sample

/-- Labels without lone halves of surrogate pairs. -/
def AreLegible (labels : Entries Text) : Prop :=
  ∀ entry ∈ labels, entry.1.IsScalar ∧ entry.2.IsScalar

theorem isScalar_escapePoint {point : CodePoint} :
    (escapePoint point).IsScalar ↔ ∃ char, point = .scalar char := by
  unfold escapePoint
  repeat' split
  case isFalse => exact Text.isScalar_singleton
  all_goals
    rename_i same
    exact iff_of_true (Text.isScalar_ofString _) ⟨_, (CodePoint.is_eq_true_iff _ _).1 same⟩

theorem isScalar_label {entry : Text × Text} :
    (label entry).IsScalar ↔ entry.1.IsScalar ∧ entry.2.IsScalar := by
  have escaped : Text.IsScalar (entry.2.flatMap escapePoint) ↔ entry.2.IsScalar := by
    simp only [Text.isScalar_flatMap, isScalar_escapePoint]
    rfl
  simp [label, escaped]

theorem isScalar_line {sample : Sample} :
    sample.line.IsScalar ↔ sample.name.IsScalar ∧ AreLegible sample.labels := by
  have joined : Text.IsScalar (Text.joinWith "," (sample.labels.map label)) ↔
      AreLegible sample.labels := by
    rw [Text.isScalar_joinWith (Text.isScalar_ofString ","), List.forall_mem_map]
    simp only [isScalar_label, AreLegible]
  simp [line, joined]

end Sample

namespace Collector

variable {collector : Collector} {sample : Sample}

theorem exists_name (listed : sample ∈ collector.samples) :
    ∃ name : String, sample.name = Text.ofString name := by
  have labelled : collector.IsLabelled fun _ => True := by
    constructor <;> exact fun _ _ => trivial
  rcases labelled.exists_labels listed with ⟨_, _, named, _⟩
  exact named

theorem IsLabelled.areLegible (labelled : collector.IsLabelled Sample.AreLegible)
    (listed : sample ∈ collector.samples) : Sample.AreLegible sample.labels := by
  rcases labelled.exists_labels listed with ⟨labels, legible, _, same | ⟨bound, bucket⟩⟩
  · rw [same]
    exact legible
  · rw [bucket]
    exact List.forall_mem_cons.2 ⟨⟨Text.isScalar_ofString _, Text.isScalar_ofString _⟩, legible⟩

/-- The exposition is a text that can be sent if and only if all labels are legible. -/
theorem isScalar_exposition :
    collector.exposition.IsScalar ↔
      ∀ sample ∈ collector.samples, Sample.AreLegible sample.labels := by
  rw [exposition, Text.isScalar_flatMap]
  constructor
  · intro scalar sample listed
    rcases List.mem_flatMap.1 listed with ⟨family, family_mem, sample_mem⟩
    have line_mem : sample.line ∈ familyLines family := by
      simp [familyLines, List.mem_map_of_mem sample_mem]
    have line := scalar _ (List.mem_flatMap.2 ⟨family, family_mem, line_mem⟩)
    exact (Sample.isScalar_line.1 (Text.isScalar_append.1 line).1).2
  · intro legible line line_mem
    rw [Text.isScalar_append]
    refine ⟨?_, Text.isScalar_ofChar '\n'⟩
    rcases List.mem_flatMap.1 line_mem with ⟨family, family_mem, ofFamily⟩
    simp only [familyLines, List.mem_cons, List.mem_map] at ofFamily
    rcases ofFamily with rfl | rfl | ⟨sample, sample_mem, rfl⟩
    · exact Text.isScalar_ofString _
    · exact Text.isScalar_ofString _
    · have listed : sample ∈ collector.samples :=
        List.mem_flatMap.2 ⟨family, family_mem, sample_mem⟩
      rcases exists_name listed with ⟨name, named⟩
      rw [Sample.isScalar_line, named]
      exact ⟨Text.isScalar_ofString name, legible sample listed⟩

end Collector

end FleetGate
