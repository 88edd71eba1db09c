import FleetGate.Metrics.Layer
import FleetGate.Proofs.Metrics.Counts

/-!
# What the counting layer does to a collector

The layer touches the collector twice for a request that it counts: when the request comes in and
when it is over. What the second touch does depends on the outcome alone: only an answer is counted
and timed, under the status that it shows (`Outcome.status?`).
-/

namespace FleetGate

namespace Outcome

/-- The status that an answer shows; without an answer there is none. -/
def status? : Outcome → Option Text
  | .ok response => some response.status.shown
  | .error _ => none

end Outcome

namespace Collector

variable {collector : Collector}

/-- A request is over, with an outcome and after a time. -/
def finished (collector : Collector) (label : RequestLabel) (outcome : Outcome)
    (duration : Float) : Collector :=
  match outcome.status? with
  | some status => (collector.ended label).recorded label status duration
  | none => collector.ended label

/-- Collectors that count the same requests go on to do so when a request is over. -/
theorem SameRequests.finished {other : Collector} (same : collector.SameRequests other)
    (label : RequestLabel) (outcome : Outcome) (duration : Float) :
    (collector.finished label outcome duration).SameRequests
      (other.finished label outcome duration) := by
  have ended : (collector.ended label).SameRequests (other.ended label) :=
    ⟨by simp only [Collector.ended, same.active], same.requests, same.durations⟩
  unfold Collector.finished
  split
  · rename_i status _
    refine ⟨ended.active, ?_, ?_⟩
    · simp only [recorded, timed, counted, ended.requests]
    · simp only [recorded, timed, counted, ended.durations]
  · exact ended

theorem underWay_finished (collector : Collector) (label : RequestLabel) (outcome : Outcome)
    (duration : Float) (other : RequestLabel) :
    (collector.finished label outcome duration).underWay other =
      collector.underWay other - if other = label then 1 else 0 := by
  rw [← underWay_ended]
  unfold finished
  split <;> rfl

theorem answered_finished (collector : Collector) (label : RequestLabel) (outcome : Outcome)
    (duration : Float) (other : AnswerLabel) :
    (collector.finished label outcome duration).answered other =
      collector.answered other +
        if other.request = label ∧ outcome.status? = some other.status then 1 else 0 := by
  rcases other with ⟨request, status⟩
  cases answer : outcome.status? with
  | none => simp [finished, answer, answered, ended]
  | some shown =>
      have kept : (collector.ended label).answered ⟨request, status⟩ =
          collector.answered ⟨request, status⟩ := rfl
      simp only [finished, answer, answered_recorded, kept, AnswerLabel.mk.injEq,
        Option.some.injEq, @eq_comm _ status]

theorem answeredInAll_finished (collector : Collector) (label : RequestLabel) (outcome : Outcome)
    (duration : Float) (other : RequestLabel) :
    (collector.finished label outcome duration).answeredInAll other =
      collector.answeredInAll other +
        if other = label ∧ outcome.status?.isSome then 1 else 0 := by
  cases answer : outcome.status? with
  | none => simp [finished, answer, answeredInAll, ended]
  | some shown =>
      have kept : (collector.ended label).answeredInAll other = collector.answeredInAll other := rfl
      simp [finished, answer, answeredInAll_recorded, kept]

theorem isSound_started (sound : collector.IsSound) (label : RequestLabel) :
    (collector.started label).IsSound := sound

theorem IsSound.finished (sound : collector.IsSound) (label : RequestLabel) (outcome : Outcome)
    (duration : Float) : (collector.finished label outcome duration).IsSound := by
  have ended : (collector.ended label).IsSound := sound
  unfold Collector.finished
  split
  · exact ended.recorded label _ duration
  · exact ended

theorem IsSound.measured_finished {duration : Float} (sound : collector.IsSound)
    (label : RequestLabel) (outcome : Outcome) (isNumber : duration.isNaN = false)
    (other : RequestLabel) :
    (collector.finished label outcome duration).measured other =
      collector.measured other + if other = label ∧ outcome.status?.isSome then 1 else 0 := by
  have ended : (collector.ended label).IsSound := sound
  have kept : (collector.ended label).measured other = collector.measured other := rfl
  cases answer : outcome.status? with
  | none => simp [Collector.finished, answer, kept]
  | some shown => simp [Collector.finished, answer, ended.measured_recorded isNumber, kept]

end Collector

/-- Another set of instruments counts the same requests. -/
def Instruments.SameRequests (instruments other : Instruments) : Prop :=
  Option.Rel Collector.SameRequests instruments.collector other.collector

theorem Instruments.SameRequests.exists_collector {instruments other : Instruments}
    {collector : Collector} (same : instruments.SameRequests other)
    (isOn : instruments.collector = some collector) :
    ∃ after, other.collector = some after ∧ collector.SameRequests after := by
  unfold SameRequests at same
  rw [isOn] at same
  cases found : other.collector with
  | none =>
      rw [found] at same
      cases same
  | some after =>
      rw [found] at same
      cases same with
      | some same => exact ⟨after, rfl, same⟩

namespace Counting

/-- The time since a request came in. -/
def elapsed (instruments : Instruments) (begun : Float) : Float :=
  instruments.watch.read.1 - begun

theorem collector_start (instruments : Instruments) (label : RequestLabel) :
    (start instruments label).2.collector = instruments.collector.map (·.started label) := rfl

theorem collector_finish (instruments : Instruments) (label : RequestLabel) (begun : Float)
    (outcome : Outcome) :
    (finish instruments label begun outcome).1.collector =
      instruments.collector.map fun collector =>
        collector.finished label outcome (elapsed instruments begun) := by
  cases outcome with
  | error raised => rfl
  | ok response =>
      simp only [finish, Instruments.update, Instruments.read, Option.map_map]
      rfl

variable {route : Request → Except Fault Text} {inner : Handler}
  {instruments running after : Instruments} {request : Request} {path : Text} {fault : Fault}

/-- The layer sees a request: its URL can be read and does not end like the one for the metrics. -/
def IsSeen (request : Request) : Prop :=
  ∃ path, request.urlPath = .ok path ∧ Text.endsWith path metricsSuffix = false

theorem label?_of_seen (isOn : instruments.collector.isSome) (isSeen : IsSeen request) :
    label? instruments route request =
      (route request).map fun template => some ⟨request.method, template⟩ := by
  rcases isSeen with ⟨path, read, other⟩
  cases collector : instruments.collector with
  | none => simp [collector] at isOn
  | some collector => simp [label?, collector, read, other]

/-- A request that ends like the one for the metrics is not seen. -/
theorem label?_of_unseen (read : request.urlPath = .ok path)
    (unseen : Text.endsWith path metricsSuffix = true) :
    label? instruments route request = .ok none := by
  simp [label?, read, unseen]

/-- A request whose URL cannot be read has no label. -/
theorem label?_of_unread (isOn : instruments.collector.isSome)
    (unread : request.urlPath = .error fault) :
    label? instruments route request = .error fault := by
  cases collector : instruments.collector with
  | none => simp [collector] at isOn
  | some collector => simp [label?, collector, unread]

/-- A request has no label because its URL cannot be read or because its route cannot be told. -/
theorem exists_fault_of_untold (untold : label? instruments route request = .error fault) :
    instruments.collector.isSome ∧
      (request.queryText = .error fault ∨ route request = .error fault) := by
  unfold label? at untold
  split at untold
  · cases untold
  · rename_i isOn
    refine ⟨by simpa [Option.isSome_iff_ne_none] using isOn, ?_⟩
    cases read : request.queryText with
    | error own =>
        rw [Request.urlPath, read] at untold
        cases untold
        exact Or.inl rfl
    | ok query =>
        rw [Request.urlPath, read] at untold
        simp only [Except.map] at untold
        split at untold
        · cases untold
        · cases told : route request with
          | error own =>
              rw [told] at untold
              cases untold
              exact Or.inr rfl
          | ok template =>
              rw [told] at untold
              cases untold

/-- A request without a label ends before anything else. -/
theorem measure_of_untold (isHttp : request.isHttp = true)
    (untold : label? instruments route request = .error fault) :
    measure route inner instruments request =
      (instruments, .quiet (.error (.fault fault))) := by
  simp only [measure, isHttp, Bool.not_true, Bool.false_eq_true, if_false, untold]

theorem measure_of_counted {label : RequestLabel} {begun : Float} {step : Traced Outcome}
    (isHttp : request.isHttp = true)
    (counted : label? instruments route request = .ok (some label))
    (starts : start instruments label = (begun, running))
    (handled : inner running request = (after, step)) :
    measure route inner instruments request =
      ((finish after label begun (settled step.result)).1,
        (step.map settled).addLogs (finish after label begun (settled step.result)).2) := by
  simp only [measure, isHttp, Bool.not_true, Bool.false_eq_true, if_false, counted, starts, handled]

end Counting

end FleetGate
