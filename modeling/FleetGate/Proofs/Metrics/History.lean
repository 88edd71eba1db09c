import FleetGate.Proofs.Metrics.Counts
import FleetGate.Proofs.Metrics.Samples
import Mathlib.Algebra.BigOperators.Group.List.Lemmas
import Mathlib.Data.List.Induction

/-!
# The samples tell the history

What a collector exposes depends on nothing but the operations that acted on it. Requests that came
in or are over are counted, and so are answers, by their labels; of the reports about online drivers
and about the infrastructure the last one counts. `Collector.Follows` relates a collector to the
operations it has seen, and every operation keeps this relation (`Collector.Follows.apply`).
-/

namespace FleetGate

namespace MetricEvent

/-- A request with this label comes in. -/
def enters (label : RequestLabel) : MetricEvent → Bool
  | started own => own = label
  | _ => false

/-- A request with this label is over. -/
def leaves (label : RequestLabel) : MetricEvent → Bool
  | ended own => own = label
  | _ => false

/-- The status with which a request with this label is answered. -/
def status? (label : RequestLabel) : MetricEvent → Option Text
  | recorded own status _ => if own = label then some status else none
  | _ => none

/-- The reports about online drivers. -/
def mapping? : MetricEvent → Option (Entries Float)
  | online counts => some counts
  | _ => none

/-- Whether a component is reported to be healthy. -/
def verdict? (label : ComponentLabel) : MetricEvent → Option Bool
  | health own healthy _ => if own = label then some healthy else none
  | _ => none

/-- How long a component is reported to have taken, if that is not below zero. -/
def latency? (label : ComponentLabel) : MetricEvent → Option Float
  | health own _ latency => if own = label ∧ 0 ≤ latency then some latency else none
  | _ => none

/-- A recorded duration is a number. -/
def IsNumeric : MetricEvent → Prop
  | recorded _ _ duration => duration.isNaN = false
  | _ => True

/-- The metrics and labels that an operation names. -/
def named : MetricEvent → List (String × Entries Text)
  | started label => [("http_requests_active", label.labels)]
  | ended label => [("http_requests_active", label.labels)]
  | recorded label status _ =>
    [("http_requests_total", AnswerLabel.labels ⟨label, status⟩),
      ("http_request_duration_seconds", label.labels)]
  | online counts => counts.map fun entry => ("online_drivers_total", Sample.fleetLabels entry.1)
  | health label _ _ =>
    [("infrastructure_health_status", label.labels),
      ("infrastructure_connection_latency_ms", label.labels)]

variable {events : List MetricEvent} {event : MetricEvent}

/-- How many requests with this label came in. -/
def arrivals (label : RequestLabel) (events : List MetricEvent) : Nat :=
  events.countP (·.enters label)

/-- How many requests with this label are over. -/
def departures (label : RequestLabel) (events : List MetricEvent) : Nat :=
  events.countP (·.leaves label)

/-- The statuses with which requests with this label were answered, one after the other. -/
def statuses (label : RequestLabel) (events : List MetricEvent) : List Text :=
  events.filterMap (·.status? label)

/-- How many requests with this label were answered with its status. -/
def answers (label : AnswerLabel) (events : List MetricEvent) : Nat :=
  (statuses label.request events).countP (· = label.status)

/-- How many requests with this label were answered: the sum over the statuses. -/
def answersInAll (label : RequestLabel) (events : List MetricEvent) : Nat :=
  ((statuses label events).dedup.map fun status =>
    answers ⟨label, status⟩ events).foldr (· + ·) 0

/-- The last of the values that operations carry. -/
def last? {α : Type} (value? : MetricEvent → Option α) (events : List MetricEvent) : Option α :=
  (events.filterMap value?).getLast?

theorem arrivals_append (label : RequestLabel) (events : List MetricEvent) (event : MetricEvent) :
    arrivals label (events ++ [event]) =
      arrivals label events + if event.enters label then 1 else 0 := by
  simp [arrivals, List.countP_append, List.countP_singleton]

theorem departures_append (label : RequestLabel) (events : List MetricEvent)
    (event : MetricEvent) :
    departures label (events ++ [event]) =
      departures label events + if event.leaves label then 1 else 0 := by
  simp [departures, List.countP_append, List.countP_singleton]

theorem statuses_append (label : RequestLabel) (events : List MetricEvent)
    (event : MetricEvent) :
    statuses label (events ++ [event]) = statuses label events ++ (event.status? label).toList := by
  cases found : event.status? label <;> simp [statuses, found]

theorem answers_append (label : AnswerLabel) (events : List MetricEvent) (event : MetricEvent) :
    answers label (events ++ [event]) =
      answers label events + if event.status? label.request = some label.status then 1 else 0 := by
  rw [answers, statuses_append, List.countP_append]
  cases event.status? label.request with
  | none => rfl
  | some status => simp [answers, List.countP_singleton]

theorem answersInAll_eq (label : RequestLabel) (events : List MetricEvent) :
    answersInAll label events = (statuses label events).length :=
  List.sum_map_count_dedup_eq_length (statuses label events)

theorem last?_append {α : Type} (value? : MetricEvent → Option α) (events : List MetricEvent)
    (event : MetricEvent) :
    last? value? (events ++ [event]) = (value? event).or (last? value? events) := by
  cases found : value? event <;> simp [last?, found]

theorem exists_of_last? {α : Type} {value? : MetricEvent → Option α} {value : α}
    (found : last? value? events = some value) : ∃ event ∈ events, value? event = some value :=
  List.mem_filterMap.1 (List.mem_of_getLast? found)

/-! ## What an operation is about is named by it -/

theorem mem_named_of_moves {label : RequestLabel}
    (moves : (event.enters label || event.leaves label) = true) :
    ("http_requests_active", label.labels) ∈ event.named := by
  cases event <;> simp_all [enters, leaves, named]

theorem mem_named_of_status? {label : RequestLabel} {status : Text}
    (found : event.status? label = some status) :
    ("http_requests_total", AnswerLabel.labels ⟨label, status⟩) ∈ event.named ∧
      ("http_request_duration_seconds", label.labels) ∈ event.named := by
  cases event <;> simp_all [status?, named]

theorem mem_named_of_mapping? {counts : Entries Float} {entry : Text × Float}
    (found : event.mapping? = some counts) (entry_mem : entry ∈ counts) :
    ("online_drivers_total", Sample.fleetLabels entry.1) ∈ event.named := by
  cases event with
  | online own =>
      obtain rfl : own = counts := Option.some.inj found
      exact List.mem_map.2 ⟨entry, entry_mem, rfl⟩
  | _ => cases found

theorem mem_named_of_verdict? {label : ComponentLabel} {healthy : Bool}
    (found : event.verdict? label = some healthy) :
    ("infrastructure_health_status", label.labels) ∈ event.named := by
  cases event <;> simp_all [verdict?, named]

theorem mem_named_of_latency? {label : ComponentLabel} {latency : Float}
    (found : event.latency? label = some latency) :
    ("infrastructure_connection_latency_ms", label.labels) ∈ event.named := by
  cases event <;> simp_all [latency?, named]

end MetricEvent

namespace Collector

open MetricEvent

variable {collector : Collector} {events : List MetricEvent}

/-! ## What an operation does to each metric -/

/-- Replacing the reports about online drivers leaves everything else alone. -/
theorem setOnline_eq (collector : Collector) (counts : Entries Float) :
    collector.setOnline counts = { collector with
      online := counts.foldl (fun done entry => done.update entry.1 0 fun _ => entry.2) [] } := by
  have put (start : Children Text Float) :
      counts.foldl (fun done entry => done.putOnline entry.1 entry.2)
          { collector with online := start } =
        { collector with
          online := counts.foldl (fun done entry => done.update entry.1 0 fun _ => entry.2)
            start } := by
    induction counts generalizing start with
    | nil => rfl
    | cons entry rest ih => exact ih _
  exact put []

theorem active_apply (collector : Collector) (event : MetricEvent) (label : RequestLabel) :
    (collector.apply event).active.get? label =
      if event.enters label || event.leaves label then
        some ((collector.active.get? label).getD 0 + (if event.enters label then 1 else 0) -
          if event.leaves label then 1 else 0)
      else collector.active.get? label := by
  cases event with
  | started own =>
      by_cases same : own = label
      · simp [apply, started, enters, leaves, same]
      · simp [apply, started, enters, leaves, same, Children.get?_update, Ne.symm same]
  | ended own =>
      by_cases same : own = label
      · simp [apply, ended, enters, leaves, same]
      · simp [apply, ended, enters, leaves, same, Children.get?_update, Ne.symm same]
  | recorded own status duration => rfl
  | online counts =>
      rw [apply, setOnline_eq]
      rfl
  | health own healthy latency =>
      rw [apply, (sameRequests_setHealth collector own healthy latency).active]
      rfl

theorem requests_apply (collector : Collector) (event : MetricEvent) (label : AnswerLabel) :
    (collector.apply event).requests.get? label =
      if event.status? label.request = some label.status then
        some ((collector.requests.get? label).getD 0 + 1)
      else collector.requests.get? label := by
  cases event with
  | started own => rfl
  | ended own => rfl
  | recorded own status duration =>
      rcases label with ⟨request, wanted⟩
      simp only [apply, Collector.recorded, timed, counted, Children.get?_update, status?,
        AnswerLabel.mk.injEq]
      by_cases same : own = request
      · by_cases sameStatus : status = wanted
        · simp [same, sameStatus]
        · simp [same, sameStatus, Ne.symm sameStatus]
      · simp [same, Ne.symm same]
  | online counts =>
      rw [apply, setOnline_eq]
      rfl
  | health own healthy latency =>
      rw [apply, (sameRequests_setHealth collector own healthy latency).requests]
      rfl

theorem durations_apply (sound : collector.IsSound) {event : MetricEvent}
    (numeric : event.IsNumeric) (label : RequestLabel) :
    ((collector.apply event).durations.get? label).map Histogram.count =
      if (event.status? label).isSome then some (collector.measured label + 1)
      else (collector.durations.get? label).map Histogram.count := by
  cases event with
  | started own => rfl
  | ended own => rfl
  | recorded own status duration =>
      simp only [apply, Collector.recorded, timed, counted, Children.get?_update, status?]
      by_cases same : own = label
      -- The count goes up because a number is in some bucket.
      · subst same
        simp [measured, (sound.getD own).count_observe numeric]
      · simp [same, Ne.symm same]
  | online counts =>
      rw [apply, setOnline_eq]
      rfl
  | health own healthy latency =>
      rw [apply, (sameRequests_setHealth collector own healthy latency).durations]
      rfl

theorem get?_foldl_update (counts : Entries Float) (fleet : Text) (start : Children Text Float) :
    (counts.foldl (fun done entry => done.update entry.1 0 fun _ => entry.2) start).get? fleet =
      (Entries.find fleet counts.reverse).or (start.get? fleet) := by
  induction counts generalizing start with
  | nil => rfl
  | cons entry rest ih =>
      rcases entry with ⟨own, count⟩
      rw [List.foldl_cons, ih, List.reverse_cons, Entries.find_append, Option.or_assoc,
        Children.get?_update]
      by_cases same : own = fleet
      · simp [Entries.find, same]
      · simp [Entries.find, same, Ne.symm same]

theorem online_apply (collector : Collector) (event : MetricEvent) (fleet : Text) :
    (collector.apply event).online.get? fleet =
      match event.mapping? with
      | some counts => Entries.find fleet counts.reverse
      | none => collector.online.get? fleet := by
  cases event with
  | online counts =>
      rw [apply, setOnline_eq]
      simp only [mapping?]
      rw [get?_foldl_update]
      simp [Children.get?]
  | health own healthy latency =>
      simp only [apply, setHealth, putLatency]
      split <;> rfl
  | _ => rfl

theorem health_apply (collector : Collector) (event : MetricEvent) (label : ComponentLabel) :
    (collector.apply event).health.get? label =
      (event.verdict? label).or (collector.health.get? label) := by
  cases event with
  | online counts =>
      rw [apply, setOnline_eq]
      rfl
  | health own healthy latency =>
      have kept : (collector.setHealth own healthy latency).health =
          collector.health.update own false fun _ => healthy := by
        simp only [setHealth, putLatency]
        split <;> rfl
      rw [apply, kept, Children.get?_update, verdict?]
      by_cases same : own = label
      · simp [same]
      · simp [same, Ne.symm same]
  | _ => rfl

theorem latency_apply (collector : Collector) (event : MetricEvent) (label : ComponentLabel) :
    (collector.apply event).latency.get? label =
      (event.latency? label).or (collector.latency.get? label) := by
  cases event with
  | online counts =>
      rw [apply, setOnline_eq]
      rfl
  | health own healthy latency =>
      simp only [apply, setHealth, putLatency, latency?]
      by_cases counts : 0 ≤ latency
      · by_cases same : own = label
        · simp [counts, same]
        · simp [counts, same, Ne.symm same, Children.get?_update, putHealth]
      · simp [counts, putHealth]
  | _ => rfl

/-! ## What a collector holds after a history -/

/-- A number of things, if there are any. -/
def positive? (count : Nat) : Option Nat :=
  if count = 0 then none else some count

theorem getD_positive? (count : Nat) : (positive? count).getD 0 = count := by
  unfold positive?
  split
  · rename_i zero
    rw [zero]
    rfl
  · rfl

theorem pos_of_positive? {count value : Nat} (found : positive? count = some value) :
    0 < count := by
  unfold positive? at found
  split at found
  · cases found
  · omega

/-- The children of a collector are those that the operations made, and they have the values that
the operations gave them. -/
structure Follows (collector : Collector) (events : List MetricEvent) : Prop where
  active : ∀ label, collector.active.get? label =
    if arrivals label events + departures label events = 0 then none
    else some ((arrivals label events : Int) - departures label events)
  requests : ∀ label, collector.requests.get? label = positive? (answers label events)
  durations : ∀ label,
    (collector.durations.get? label).map Histogram.count = positive? (statuses label events).length
  sound : collector.IsSound
  online : ∀ fleet, collector.online.get? fleet =
    Entries.find fleet ((last? mapping? events).getD []).reverse
  health : ∀ label, collector.health.get? label = last? (verdict? label) events
  latency : ∀ label, collector.latency.get? label = last? (latency? label) events

theorem follows_empty : empty.Follows [] := by
  refine ⟨?_, ?_, ?_, isSound_empty, ?_, ?_, ?_⟩ <;> intro label <;> rfl

theorem Follows.underWay_eq (follows : collector.Follows events) (label : RequestLabel) :
    (collector.active.get? label).getD 0 =
      (arrivals label events : Int) - departures label events := by
  rw [follows.active]
  split
  · rw [Option.getD_none]
    omega
  · rfl

theorem Follows.measured_eq (follows : collector.Follows events) (label : RequestLabel) :
    collector.measured label = (statuses label events).length := by
  rw [← getD_positive? (statuses label events).length, ← follows.durations, measured]
  cases collector.durations.get? label <;> rfl

/-- Every operation carries on the history. -/
theorem Follows.apply (follows : collector.Follows events) {event : MetricEvent}
    (numeric : event.IsNumeric) : (collector.apply event).Follows (events ++ [event]) where
  active label := by
    rw [active_apply, arrivals_append, departures_append, follows.underWay_eq]
    cases event.enters label with
    | false =>
      cases event.leaves label with
      | false => simpa using follows.active label
      | true =>
        simp only [Bool.false_or, if_true, Bool.false_eq_true, if_false]
        rw [if_neg (by omega)]
        congr 1
        omega
    | true =>
      cases event.leaves label with
      | false =>
        simp only [Bool.or_false, if_true, Bool.false_eq_true, if_false]
        rw [if_neg (by omega)]
        congr 1
        omega
      | true => simp
  requests label := by
    rw [requests_apply, answers_append, follows.requests, getD_positive?]
    split
    · rw [positive?, if_neg (Nat.succ_ne_zero _)]
    · rfl
  durations label := by
    rw [durations_apply follows.sound numeric, statuses_append, follows.measured_eq]
    cases event.status? label with
    | none => simpa using follows.durations label
    | some status => simp [positive?]
  sound := follows.sound.apply event
  online fleet := by
    rw [online_apply, last?_append]
    cases event.mapping? with
    | none => simpa using follows.online fleet
    | some counts => rfl
  health label := by
    rw [health_apply, last?_append, follows.health]
  latency label := by
    rw [latency_apply, last?_append, follows.latency]

/-- After any history of numeric operations the collector follows it. -/
theorem follows_run (numeric : ∀ event ∈ events, event.IsNumeric) :
    (run events).Follows events := by
  -- The history is taken apart at its end, where its last operation acted.
  induction events using List.reverseRecOn with
  | nil => exact follows_empty
  | append_singleton earlier event ih =>
      have earlierFollows := ih fun other other_mem => numeric other (by simp [other_mem])
      have carried := earlierFollows.apply (numeric event (by simp))
      rwa [run, List.foldl_append]

end Collector

end FleetGate
