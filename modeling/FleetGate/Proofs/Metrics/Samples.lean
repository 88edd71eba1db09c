import FleetGate.Metrics.Exposition

/-!
# Finding a sample

A sample is looked up by its name and all its labels. No two metrics share a name, and the labels
of a child tell it apart from the other children of its metric. So what is found is the value of
that child, or nothing if there is no such child.
-/

namespace FleetGate

namespace Sample

/-- These are the wanted labels, in whatever order the wanted ones come. -/
def fits (wanted own : Entries Text) : Bool :=
  own.length == wanted.length && own.all fun (key, value) => Entries.find key wanted == some value

/-- The sample has this name and these labels. -/
def isAt (name : Text) (labels : Entries Text) (sample : Sample) : Bool :=
  sample.name == name && fits labels sample.labels

theorem isAt_same (name : Text) (labels others : Entries Text) (value : Float) :
    isAt name labels ⟨name, others, value⟩ = fits labels others := by
  simp [isAt]

theorem isAt_other {name own : String} (differ : own ≠ name) (labels others : Entries Text)
    (value : Float) :
    isAt (Text.ofString name) labels ⟨Text.ofString own, others, value⟩ = false := by
  simp [isAt, mt Text.ofString_injective differ]

/-- The labels tell the children of a metric apart. -/
def Identify {κ : Type} (labelsOf : κ → Entries Text) : Prop :=
  ∀ key other, fits (labelsOf key) (labelsOf other) = true ↔ key = other

theorem identify_request : Identify RequestLabel.labels := by
  rintro ⟨method, route⟩ ⟨otherMethod, otherRoute⟩
  have differ : ("method" : Text) ≠ "route" := by decide
  simp [fits, RequestLabel.labels, Entries.find, differ]

theorem identify_answer : Identify AnswerLabel.labels := by
  rintro ⟨⟨method, route⟩, status⟩ ⟨⟨otherMethod, otherRoute⟩, otherStatus⟩
  have route_differs : ("method" : Text) ≠ "route" := by decide
  have method_differs : ("method" : Text) ≠ "status_code" := by decide
  have status_differs : ("route" : Text) ≠ "status_code" := by decide
  simp [fits, AnswerLabel.labels, RequestLabel.labels, Entries.find, route_differs,
    method_differs, status_differs, and_assoc]

theorem identify_component : Identify ComponentLabel.labels := by
  rintro ⟨service, component⟩ ⟨otherService, otherComponent⟩
  have differ : ("component" : Text) ≠ "service" := by decide
  simp [fits, ComponentLabel.labels, Entries.find, differ, and_comm]

/-- The labels of a fleet. -/
def fleetLabels (fleet : Text) : Entries Text := [("fleet", fleet)]

theorem identify_fleet : Identify fleetLabels := by
  intro fleet other
  simp [fits, fleetLabels, Entries.find]

end Sample

namespace Children

open Sample

variable {κ α : Type} {labelsOf : κ → Entries Text} {own name : String} {labels : Entries Text}

/-- The samples of a metric that has one value for each child. -/
def series (own : String) (labelsOf : κ → Entries Text) (valueOf : α → Float)
    (children : Children κ α) : List Sample :=
  children.map fun child => ⟨Text.ofString own, labelsOf child.1, valueOf child.2⟩

/-- The samples of a metric that has a histogram for each child. -/
def histograms (own : String) (labelsOf : κ → Entries Text) (children : Children κ Histogram) :
    List Sample :=
  children.flatMap fun child => child.2.samples own (labelsOf child.1)

theorem find?_series_other (differ : own ≠ name) (valueOf : α → Float)
    (children : Children κ α) :
    (children.series own labelsOf valueOf).find? (isAt (Text.ofString name) labels) = none := by
  simp [series, isAt_other differ]

theorem find?_histograms_other (bucket : own ++ "_bucket" ≠ name) (count : own ++ "_count" ≠ name)
    (sum : own ++ "_sum" ≠ name) (children : Children κ Histogram) :
    (children.histograms own labelsOf).find? (isAt (Text.ofString name) labels) = none := by
  simp only [histograms, List.find?_eq_none, List.mem_flatMap]
  rintro sample ⟨child, _, sample_mem⟩
  simp only [Histogram.samples, List.mem_append, List.mem_map, List.mem_cons,
    List.not_mem_nil, or_false] at sample_mem
  rw [Bool.not_eq_true]
  rcases sample_mem with ⟨bound, _, rfl⟩ | rfl | rfl
  · exact isAt_other bucket ..
  · exact isAt_other count ..
  · exact isAt_other sum ..

theorem find?_samples_count (bucket : own ++ "_bucket" ≠ own ++ "_count")
    (sum : own ++ "_sum" ≠ own ++ "_count")
    (others : Entries Text) (histogram : Histogram) :
    (histogram.samples own others).find? (isAt (Text.ofString (own ++ "_count")) labels) =
      if fits labels others then
        some ⟨Text.ofString (own ++ "_count"), others, Float.ofNat histogram.count⟩
      else none := by
  -- The count stands right behind the buckets, none of which has its name.
  rw [Histogram.samples, List.find?_append, List.find?_eq_none.2, Option.none_or, List.find?_cons,
    isAt_same]
  · cases fits labels others with
    | true => rfl
    | false =>
        simp only [List.find?_cons, isAt_other sum, List.find?_nil, Bool.false_eq_true, if_false]
  · intro sample sample_mem
    rcases List.mem_map.1 sample_mem with ⟨bound, _, rfl⟩
    rw [Bool.not_eq_true]
    exact isAt_other bucket ..

variable [DecidableEq κ]

theorem find?_series (identify : Identify labelsOf) (valueOf : α → Float) (key : κ)
    (children : Children κ α) :
    ((children.series own labelsOf valueOf).find?
        (isAt (Text.ofString own) (labelsOf key))).map (·.value) =
      (children.get? key).map valueOf := by
  induction children with
  | nil => rfl
  | cons child rest ih =>
      rcases child with ⟨other, value⟩
      rw [series, List.map_cons, ← series, List.find?_cons, isAt_same, get?]
      by_cases same : key = other
      · rw [(identify key other).2 same, if_pos same.symm]
        rfl
      · rw [Bool.eq_false_iff.2 (mt (identify key other).1 same), if_neg (Ne.symm same)]
        exact ih

theorem find?_histograms_count (identify : Identify labelsOf)
    (bucket : own ++ "_bucket" ≠ own ++ "_count") (sum : own ++ "_sum" ≠ own ++ "_count") (key : κ)
    (children : Children κ Histogram) :
    ((children.histograms own labelsOf).find?
        (isAt (Text.ofString (own ++ "_count")) (labelsOf key))).map (·.value) =
      (children.get? key).map fun histogram => Float.ofNat histogram.count := by
  induction children with
  | nil => rfl
  | cons child rest ih =>
      rcases child with ⟨other, histogram⟩
      rw [histograms, List.flatMap_cons, ← histograms, List.find?_append,
        find?_samples_count bucket sum, get?]
      by_cases same : key = other
      · rw [(identify key other).2 same, if_pos same.symm]
        rfl
      · rw [Bool.eq_false_iff.2 (mt (identify key other).1 same), if_neg (Ne.symm same)]
        exact ih

end Children

namespace Collector

open Sample

variable (collector : Collector)

theorem sampleValue?_eq (name : Text) (labels : Entries Text) :
    collector.sampleValue? name labels =
      (collector.samples.find? (isAt name labels)).map (·.value) := by
  have sameTest : isAt name labels = fun sample => sample.name == name &&
      sample.labels.length == labels.length &&
        sample.labels.all fun (key, value) => Entries.find key labels == some value := by
    funext sample
    rw [isAt, fits, Bool.and_assoc]
  rw [sampleValue?, sameTest]

theorem samples_eq : collector.samples =
    collector.requests.series "http_requests_total" AnswerLabel.labels Float.ofNat ++
      (collector.durations.histograms "http_request_duration_seconds" RequestLabel.labels ++
        (collector.active.series "http_requests_active" RequestLabel.labels Float.ofInt ++
          (collector.online.series "online_drivers_total" fleetLabels id ++
            (collector.health.series "infrastructure_health_status" ComponentLabel.labels
                (fun healthy => if healthy then 1 else 0) ++
              collector.latency.series "infrastructure_connection_latency_ms"
                ComponentLabel.labels id)))) := by
  simp only [samples, families, List.flatMap_cons, List.flatMap_nil, List.append_nil]
  rfl

/-! ## The value of a sample is that of a child -/

theorem sampleValue?_requests (label : AnswerLabel) :
    collector.sampleValue? "http_requests_total" label.labels =
      (collector.requests.get? label).map Float.ofNat := by
  rw [sampleValue?_eq, samples_eq]
  simp (disch := decide) only [List.find?_append, Children.find?_series_other,
    Children.find?_histograms_other, Option.or_none, Children.find?_series identify_answer]

theorem sampleValue?_durations (label : RequestLabel) :
    collector.sampleValue? "http_request_duration_seconds_count" label.labels =
      (collector.durations.get? label).map fun histogram => Float.ofNat histogram.count := by
  have named : "http_request_duration_seconds_count" =
      "http_request_duration_seconds" ++ "_count" := by decide
  rw [sampleValue?_eq, samples_eq, named]
  simp (disch := decide) only [List.find?_append, Children.find?_series_other, Option.none_or,
    Option.or_none, Children.find?_histograms_count identify_request]

theorem sampleValue?_active (label : RequestLabel) :
    collector.sampleValue? "http_requests_active" label.labels =
      (collector.active.get? label).map Float.ofInt := by
  rw [sampleValue?_eq, samples_eq]
  simp (disch := decide) only [List.find?_append, Children.find?_series_other,
    Children.find?_histograms_other, Option.none_or, Option.or_none,
    Children.find?_series identify_request]

theorem sampleValue?_online (fleet : Text) :
    collector.sampleValue? "online_drivers_total" (fleetLabels fleet) =
      collector.online.get? fleet := by
  rw [sampleValue?_eq, samples_eq]
  simp (disch := decide) only [List.find?_append, Children.find?_series_other,
    Children.find?_histograms_other, Option.none_or, Option.or_none,
    Children.find?_series identify_fleet, Option.map_id, id]

theorem sampleValue?_health (label : ComponentLabel) :
    collector.sampleValue? "infrastructure_health_status" label.labels =
      (collector.health.get? label).map fun healthy => if healthy then 1 else 0 := by
  rw [sampleValue?_eq, samples_eq]
  simp (disch := decide) only [List.find?_append, Children.find?_series_other,
    Children.find?_histograms_other, Option.none_or, Option.or_none,
    Children.find?_series identify_component]

theorem sampleValue?_latency (label : ComponentLabel) :
    collector.sampleValue? "infrastructure_connection_latency_ms" label.labels =
      collector.latency.get? label := by
  rw [sampleValue?_eq, samples_eq]
  simp (disch := decide) only [List.find?_append, Children.find?_series_other,
    Children.find?_histograms_other, Option.none_or, Children.find?_series identify_component,
    Option.map_id, id]

end Collector

end FleetGate
