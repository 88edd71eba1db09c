import FleetGate.Proofs.Metrics.History

/-!
# What a history exposes

The samples of a collector can be told from the operations alone (`Collector.TellsHistory`): what
they count, what was reported last, and which labels have samples at all.
-/

namespace FleetGate

theorem Children.exists_get?_of_mem {κ α : Type} [DecidableEq κ] {children : Children κ α}
    {key : κ} {value : α} (child_mem : (key, value) ∈ children) :
    ∃ own, children.get? key = some own := by
  induction children with
  | nil => cases child_mem
  | cons child rest ih =>
      rcases child with ⟨other, otherValue⟩
      by_cases same : other = key
      · exact ⟨otherValue, by simp [get?, same]⟩
      · have rest_mem : (key, value) ∈ rest := by
          rcases List.mem_cons.1 child_mem with equal | rest_mem
          · cases equal
            exact absurd rfl same
          · exact rest_mem
        rcases ih rest_mem with ⟨own, found⟩
        exact ⟨own, by simp [get?, same, found]⟩

/-- The sample carries these labels; in a bucket they stand behind its bound. -/
def Sample.Carries (sample : Sample) (labels : Entries Text) : Prop :=
  sample.labels = labels ∨ ∃ bound, sample.labels = (Text.ofString "le", bound) :: labels

namespace Collector

open MetricEvent

variable {collector : Collector} {events : List MetricEvent}

/-- The samples are what the operations say: numbers of operations with the labels, durations being
counted over all statuses, and otherwise the last report, if there was one. -/
structure TellsHistory (collector : Collector) (events : List MetricEvent) : Prop where
  active : ∀ label, collector.sampleValue? "http_requests_active" label.labels =
    if arrivals label events + departures label events = 0 then none
    else some (Float.ofInt (arrivals label events - departures label events))
  requests : ∀ label : AnswerLabel, collector.sampleValue? "http_requests_total" label.labels =
    (positive? (answers label events)).map Float.ofNat
  durations : ∀ label,
    collector.sampleValue? "http_request_duration_seconds_count" label.labels =
      (positive? (answersInAll label events)).map Float.ofNat
  -- A mapping has one entry for each fleet; of several the last one would count.
  online : ∀ fleet, collector.sampleValue? "online_drivers_total" (Sample.fleetLabels fleet) =
    Entries.find fleet ((last? mapping? events).getD []).reverse
  health : ∀ label, collector.sampleValue? "infrastructure_health_status" label.labels =
    (last? (verdict? label) events).map fun healthy => if healthy then 1 else 0
  latency : ∀ label, collector.sampleValue? "infrastructure_connection_latency_ms" label.labels =
    last? (latency? label) events
  named : ∀ family ∈ collector.families, ∀ sample ∈ family.samples, ∃ event ∈ events, ∃ labels,
    (family.name, labels) ∈ event.named ∧ sample.Carries labels

/-! ## Children are made by operations -/

theorem Follows.exists_of_active (follows : collector.Follows events) {label : RequestLabel}
    {count : Int} (child_mem : (label, count) ∈ collector.active) :
    ∃ event ∈ events, (event.enters label || event.leaves label) = true := by
  rcases Children.exists_get?_of_mem child_mem with ⟨own, found⟩
  rw [follows.active] at found
  split at found
  · cases found
  · rename_i some_moves
    have positive : 0 < arrivals label events ∨ 0 < departures label events := by omega
    rcases positive with arrived | departed
    · rcases List.countP_pos_iff.1 arrived with ⟨event, event_mem, enters⟩
      exact ⟨event, event_mem, by simp [enters]⟩
    · rcases List.countP_pos_iff.1 departed with ⟨event, event_mem, leaves⟩
      exact ⟨event, event_mem, by simp [leaves]⟩

theorem Follows.exists_of_requests (follows : collector.Follows events) {label : AnswerLabel}
    {count : Nat} (child_mem : (label, count) ∈ collector.requests) :
    ∃ event ∈ events, event.status? label.request = some label.status := by
  rcases Children.exists_get?_of_mem child_mem with ⟨own, found⟩
  rw [follows.requests] at found
  rcases List.countP_pos_iff.1 (pos_of_positive? found) with ⟨status, status_mem, same⟩
  rw [of_decide_eq_true same] at status_mem
  exact List.mem_filterMap.1 status_mem

theorem Follows.exists_of_durations (follows : collector.Follows events) {label : RequestLabel}
    {histogram : Histogram} (child_mem : (label, histogram) ∈ collector.durations) :
    ∃ event ∈ events, ∃ status, event.status? label = some status := by
  rcases Children.exists_get?_of_mem child_mem with ⟨own, found⟩
  have counted := follows.durations label
  rw [found, Option.map_some] at counted
  rcases List.exists_mem_of_length_pos (pos_of_positive? counted.symm) with ⟨status, status_mem⟩
  rcases List.mem_filterMap.1 status_mem with ⟨event, event_mem, answered⟩
  exact ⟨event, event_mem, status, answered⟩

theorem Follows.exists_of_online (follows : collector.Follows events) {fleet : Text}
    {count : Float} (child_mem : (fleet, count) ∈ collector.online) :
    ∃ event ∈ events, ("online_drivers_total", Sample.fleetLabels fleet) ∈ event.named := by
  rcases Children.exists_get?_of_mem child_mem with ⟨own, found⟩
  rw [follows.online] at found
  cases last : last? mapping? events with
  | none =>
      rw [last] at found
      cases found
  | some counts =>
      rw [last, Option.getD_some] at found
      rcases exists_of_last? last with ⟨event, event_mem, reports⟩
      have entry_mem := List.mem_reverse.1 (Entries.mem_of_find found)
      exact ⟨event, event_mem, mem_named_of_mapping? reports entry_mem⟩

theorem Follows.exists_of_health (follows : collector.Follows events) {label : ComponentLabel}
    {healthy : Bool} (child_mem : (label, healthy) ∈ collector.health) :
    ∃ event ∈ events, ("infrastructure_health_status", label.labels) ∈ event.named := by
  rcases Children.exists_get?_of_mem child_mem with ⟨own, found⟩
  rw [follows.health] at found
  rcases exists_of_last? found with ⟨event, event_mem, reports⟩
  exact ⟨event, event_mem, mem_named_of_verdict? reports⟩

theorem Follows.exists_of_latency (follows : collector.Follows events) {label : ComponentLabel}
    {latency : Float} (child_mem : (label, latency) ∈ collector.latency) :
    ∃ event ∈ events, ("infrastructure_connection_latency_ms", label.labels) ∈ event.named := by
  rcases Children.exists_get?_of_mem child_mem with ⟨own, found⟩
  rw [follows.latency] at found
  rcases exists_of_last? found with ⟨event, event_mem, reports⟩
  exact ⟨event, event_mem, mem_named_of_latency? reports⟩

theorem carries_of_mem_samples {name : String} {labels : Entries Text} {histogram : Histogram}
    {sample : Sample} (sample_mem : sample ∈ histogram.samples name labels) :
    sample.Carries labels := by
  simp only [Histogram.samples, List.mem_append, List.mem_map, List.mem_cons, List.not_mem_nil,
    or_false] at sample_mem
  rcases sample_mem with ⟨bound, _, rfl⟩ | rfl | rfl
  · exact Or.inr ⟨_, rfl⟩
  · exact Or.inl rfl
  · exact Or.inl rfl

/-- A sample is there only if some operation named its labels. -/
theorem Follows.named (follows : collector.Follows events) :
    ∀ family ∈ collector.families, ∀ sample ∈ family.samples, ∃ event ∈ events, ∃ labels,
      (family.name, labels) ∈ event.named ∧ sample.Carries labels := by
  intro family family_mem sample sample_mem
  simp only [families, List.mem_cons, List.not_mem_nil, or_false] at family_mem
  rcases family_mem with rfl | rfl | rfl | rfl | rfl | rfl
  · rcases List.mem_map.1 sample_mem with ⟨⟨label, count⟩, child_mem, rfl⟩
    rcases follows.exists_of_requests child_mem with ⟨event, event_mem, answers⟩
    exact ⟨event, event_mem, _, (mem_named_of_status? answers).1, Or.inl rfl⟩
  · rcases List.mem_flatMap.1 sample_mem with ⟨⟨label, histogram⟩, child_mem, sample_mem⟩
    rcases follows.exists_of_durations child_mem with ⟨event, event_mem, status, answers⟩
    exact ⟨event, event_mem, _, (mem_named_of_status? answers).2, carries_of_mem_samples sample_mem⟩
  · rcases List.mem_map.1 sample_mem with ⟨⟨label, count⟩, child_mem, rfl⟩
    rcases follows.exists_of_active child_mem with ⟨event, event_mem, moves⟩
    exact ⟨event, event_mem, _, mem_named_of_moves moves, Or.inl rfl⟩
  · rcases List.mem_map.1 sample_mem with ⟨⟨fleet, count⟩, child_mem, rfl⟩
    rcases follows.exists_of_online child_mem with ⟨event, event_mem, reports⟩
    exact ⟨event, event_mem, _, reports, Or.inl rfl⟩
  · rcases List.mem_map.1 sample_mem with ⟨⟨label, healthy⟩, child_mem, rfl⟩
    rcases follows.exists_of_health child_mem with ⟨event, event_mem, reports⟩
    exact ⟨event, event_mem, _, reports, Or.inl rfl⟩
  · rcases List.mem_map.1 sample_mem with ⟨⟨label, latency⟩, child_mem, rfl⟩
    rcases follows.exists_of_latency child_mem with ⟨event, event_mem, reports⟩
    exact ⟨event, event_mem, _, reports, Or.inl rfl⟩

/-- The samples of a collector that follows a history tell it. -/
theorem Follows.tellsHistory (follows : collector.Follows events) :
    collector.TellsHistory events where
  active label := by
    rw [sampleValue?_active, follows.active]
    split <;> rfl
  requests label := by rw [sampleValue?_requests, follows.requests]
  durations label := by
    rw [sampleValue?_durations, answersInAll_eq, ← follows.durations, Option.map_map]
    rfl
  online fleet := by rw [sampleValue?_online, follows.online]
  health label := by rw [sampleValue?_health, follows.health]
  latency label := by rw [sampleValue?_latency, follows.latency]
  named := follows.named

/-- The samples are a function of the history alone. -/
theorem samples_tell_history (events : List MetricEvent)
    (numeric : ∀ event ∈ events, event.IsNumeric) : (run events).TellsHistory events :=
  (follows_run numeric).tellsHistory

/-- A history with every kind of operation: a ride, two mappings, and two reports about a store. -/
def busyDay : List MetricEvent :=
  [.online [("RSK", 3), ("KD", 1)], .started ⟨"GET", "/rides"⟩,
    .health ⟨"store", "cache"⟩ true 12.5, .recorded ⟨"GET", "/rides"⟩ "200" 0.25,
    .ended ⟨"GET", "/rides"⟩, .online [("WEI", 2)], .recorded ⟨"GET", "/rides"⟩ "404" 0.5,
    .health ⟨"store", "cache"⟩ false (-1)]

theorem busyDay_told :
    (∀ event ∈ busyDay, event.IsNumeric) ∧
      (run busyDay).sampleValue? "http_requests_active" (RequestLabel.labels ⟨"GET", "/rides"⟩) =
        some (Float.ofInt 0) ∧
      (run busyDay).sampleValue? "http_requests_total"
        (AnswerLabel.labels ⟨⟨"GET", "/rides"⟩, "404"⟩) = some (Float.ofNat 1) ∧
      (run busyDay).sampleValue? "http_request_duration_seconds_count"
        (RequestLabel.labels ⟨"GET", "/rides"⟩) = some (Float.ofNat 2) ∧
      (run busyDay).sampleValue? "online_drivers_total" (Sample.fleetLabels "WEI") = some 2 ∧
      (run busyDay).sampleValue? "online_drivers_total" (Sample.fleetLabels "RSK") = none ∧
      (run busyDay).sampleValue? "infrastructure_health_status"
        (ComponentLabel.labels ⟨"store", "cache"⟩) = some 0 ∧
      (run busyDay).sampleValue? "infrastructure_connection_latency_ms"
        (ComponentLabel.labels ⟨"store", "cache"⟩) = some 12.5 := by
  have numeric : ∀ event ∈ busyDay, event.IsNumeric := by
    simp only [busyDay, List.forall_mem_cons]
    refine ⟨trivial, trivial, trivial, ?_, trivial, trivial, ?_, trivial, ?_⟩
    · rfl
    · rfl
    · simp
  have tells := samples_tell_history busyDay numeric
  refine ⟨numeric, ?_, ?_, ?_, ?_, ?_, ?_, ?_⟩
  · rw [tells.active]
    rfl
  · rw [tells.requests]
    rfl
  · rw [tells.durations]
    rfl
  · rw [tells.online]
    rfl
  · rw [tells.online]
    rfl
  · rw [tells.health]
    rfl
  · rw [tells.latency]
    rfl

end Collector

end FleetGate
