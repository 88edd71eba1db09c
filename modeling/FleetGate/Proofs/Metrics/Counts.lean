import FleetGate.Metrics.Collector

/-!
# What a collector counts

Three numbers can be read off a collector for the label of a request: how many requests are under
way, how many were answered with a status, and how many durations were taken. Each operation on the
collector changes one of them by one, at one label, and leaves the others alone.

A histogram counts a duration in one of its buckets, so it counts every duration that is a number:
the last bucket has no bound. This needs all buckets to be there (`Collector.IsSound`), which every
operation keeps.
-/

namespace FleetGate

namespace Children

variable {κ α : Type} [DecidableEq κ]

theorem get?_update (key other : κ) (fresh : α) (change : α → α) (children : Children κ α) :
    get? other (update key fresh change children) =
      if other = key then some (change ((get? key children).getD fresh))
      else get? other children := by
  split
  · rename_i same
    rw [same, get?_update_same]
  · rename_i differ
    exact get?_update_other differ fresh change children

/-- The sum over the children whose keys are wanted. -/
def total (wanted : κ → Bool) : Children κ Nat → Nat
  | [] => 0
  | (key, count) :: rest => (if wanted key then count else 0) + total wanted rest

theorem total_update (wanted : κ → Bool) (key : κ) (children : Children κ Nat) :
    total wanted (update key 0 (· + 1) children) =
      total wanted children + if wanted key then 1 else 0 := by
  induction children with
  | nil => simp [update, total]
  | cons child rest ih =>
      rcases child with ⟨own, count⟩
      by_cases same : own = key
      · subst same
        simp only [update, if_true, total]
        split <;> omega
      · simp only [update, same, if_false, total, ih]
        omega

end Children

namespace Histogram

/-- No number is above infinity. -/
theorem le_infinity {duration : Float} (isNumber : duration.isNaN = false) :
    duration ≤ 1.0 / 0.0 := by
  have unbounded : (1.0 / 0.0 : Float).toModel.unpack = .infinity .positive := rfl
  change duration.toModel.unpack.isNaN = false at isNumber
  change decide ((duration.toModel.unpack.le (1.0 / 0.0 : Float).toModel.unpack) = true) = true
  rw [unbounded, decide_eq_true_iff]
  -- Floats are compared by their unpacked forms, and all but one of these are below infinity.
  cases size : duration.toModel.unpack with
  | notANumber =>
      rw [size] at isNumber
      cases isNumber
  | infinity sign => cases sign <;> rfl
  | zero sign => rfl
  | finite sign mantissa exponent positive => cases sign <;> rfl

/-- A duration that some bound is not below is counted once. -/
theorem total_countIn {duration : Float} {bounds : List Float} {counts : List Nat}
    (complete : counts.length = bounds.length)
    (bounded : ∃ bound ∈ bounds, duration ≤ bound) :
    (countIn duration bounds counts).foldr (· + ·) 0 = counts.foldr (· + ·) 0 + 1 := by
  induction bounds generalizing counts with
  | nil =>
      rcases bounded with ⟨bound, listed, _⟩
      cases listed
  | cons bound bounds ih =>
      cases counts with
      | nil => cases complete
      | cons count counts =>
          simp only [countIn]
          split
          · simp only [List.foldr_cons]
            omega
          · rename_i above
            have boundedLater : ∃ bound ∈ bounds, duration ≤ bound := by
              rcases bounded with ⟨other, listed, below⟩
              rcases List.mem_cons.1 listed with same | listed
              · exact absurd (same ▸ below) above
              · exact ⟨other, listed, below⟩
            have later := ih (by simpa using complete) boundedLater
            simp only [List.foldr_cons, later]
            omega

theorem length_countIn (duration : Float) (bounds : List Float) (counts : List Nat) :
    (countIn duration bounds counts).length = counts.length := by
  induction bounds generalizing counts with
  | nil => rfl
  | cons bound bounds ih =>
      cases counts with
      | nil => rfl
      | cons count counts =>
          simp only [countIn]
          split
          · rfl
          · simp only [List.length_cons, ih]

/-- All buckets are there. -/
def IsSound (histogram : Histogram) : Prop :=
  histogram.counts.length = bucketBounds.length

theorem isSound_empty : empty.IsSound := rfl

theorem IsSound.observe {histogram : Histogram} (sound : histogram.IsSound) (duration : Float) :
    (histogram.observe duration).IsSound := by
  rw [IsSound, Histogram.observe, length_countIn]
  exact sound

theorem IsSound.count_observe {histogram : Histogram} (sound : histogram.IsSound)
    {duration : Float} (isNumber : duration.isNaN = false) :
    (histogram.observe duration).count = histogram.count + 1 := by
  have bounded : ∃ bound ∈ bucketBounds, duration ≤ bound := by
    refine ⟨1.0 / 0.0, ?_, le_infinity isNumber⟩
    simp [bucketBounds]
  exact total_countIn sound bounded

end Histogram

namespace Collector

variable {collector : Collector}

/-- The number of requests under way. -/
def underWay (collector : Collector) (label : RequestLabel) : Int :=
  (collector.active.get? label).getD 0

/-- The number of requests that were answered with a status. -/
def answered (collector : Collector) (label : AnswerLabel) : Nat :=
  (collector.requests.get? label).getD 0

/-- The number of requests that were answered, whatever the status. -/
def answeredInAll (collector : Collector) (label : RequestLabel) : Nat :=
  collector.requests.total (·.request = label)

/-- The number of durations that were taken. -/
def measured (collector : Collector) (label : RequestLabel) : Nat :=
  ((collector.durations.get? label).getD .empty).count

/-- All histograms have all their buckets. -/
def IsSound (collector : Collector) : Prop :=
  ∀ label histogram, collector.durations.get? label = some histogram → histogram.IsSound

/-- Another collector counts the same requests. -/
structure SameRequests (collector other : Collector) : Prop where
  active : other.active = collector.active
  requests : other.requests = collector.requests
  durations : other.durations = collector.durations

namespace SameRequests

variable {other third : Collector}

theorem refl (collector : Collector) : collector.SameRequests collector :=
  ⟨rfl, rfl, rfl⟩

theorem trans (same : collector.SameRequests other) (sameAgain : other.SameRequests third) :
    collector.SameRequests third :=
  ⟨sameAgain.active.trans same.active, sameAgain.requests.trans same.requests,
    sameAgain.durations.trans same.durations⟩

theorem isSound (same : collector.SameRequests other) (sound : collector.IsSound) :
    other.IsSound := by
  rw [IsSound, same.durations]
  exact sound

theorem underWay_eq (same : collector.SameRequests other) (label : RequestLabel) :
    other.underWay label = collector.underWay label := by
  rw [underWay, same.active, underWay]

theorem answered_eq (same : collector.SameRequests other) (label : AnswerLabel) :
    other.answered label = collector.answered label := by
  rw [answered, same.requests, answered]

theorem answeredInAll_eq (same : collector.SameRequests other) (label : RequestLabel) :
    other.answeredInAll label = collector.answeredInAll label := by
  rw [answeredInAll, same.requests, answeredInAll]

theorem measured_eq (same : collector.SameRequests other) (label : RequestLabel) :
    other.measured label = collector.measured label := by
  rw [measured, same.durations, measured]

end SameRequests

theorem sameRequests_setOnline (collector : Collector) (counts : Entries Float) :
    collector.SameRequests (collector.setOnline counts) := by
  have kept (start : Collector) : start.SameRequests
      (counts.foldl (fun done entry => done.putOnline entry.1 entry.2) start) := by
    induction counts generalizing start with
    | nil => exact .refl start
    | cons entry rest ih =>
        have put : start.SameRequests (start.putOnline entry.1 entry.2) := ⟨rfl, rfl, rfl⟩
        exact put.trans (ih _)
  have cleared : collector.SameRequests collector.clearOnline := ⟨rfl, rfl, rfl⟩
  exact cleared.trans (kept _)

theorem sameRequests_setHealth (collector : Collector) (label : ComponentLabel) (healthy : Bool)
    (latency : Float) : collector.SameRequests (collector.setHealth label healthy latency) := by
  unfold setHealth putLatency
  split <;> exact ⟨rfl, rfl, rfl⟩

theorem isSound_empty : empty.IsSound := by
  intro label histogram found
  cases found

/-! ## A request comes in -/

theorem underWay_started (collector : Collector) (label other : RequestLabel) :
    (collector.started label).underWay other =
      collector.underWay other + if other = label then 1 else 0 := by
  simp only [underWay, started, Children.get?_update]
  split
  · rename_i same
    simp [same]
  · simp

/-! ## A request is over -/

theorem underWay_ended (collector : Collector) (label other : RequestLabel) :
    (collector.ended label).underWay other =
      collector.underWay other - if other = label then 1 else 0 := by
  simp only [underWay, ended, Children.get?_update]
  split
  · rename_i same
    simp [same]
  · simp

/-! ## A request is answered -/

variable {label : RequestLabel} {status : Text} {duration : Float}

theorem answered_recorded (collector : Collector) (label : RequestLabel) (status : Text)
    (duration : Float) (other : AnswerLabel) :
    (collector.recorded label status duration).answered other =
      collector.answered other + if other = ⟨label, status⟩ then 1 else 0 := by
  simp only [answered, recorded, timed, counted, Children.get?_update]
  split
  · rename_i same
    simp [same]
  · simp

theorem answeredInAll_recorded (collector : Collector) (label : RequestLabel) (status : Text)
    (duration : Float) (other : RequestLabel) :
    (collector.recorded label status duration).answeredInAll other =
      collector.answeredInAll other + if other = label then 1 else 0 := by
  simp only [answeredInAll, recorded, timed, counted, Children.total_update, decide_eq_true_iff]
  simp only [eq_comm]

theorem IsSound.getD (sound : collector.IsSound) (label : RequestLabel) :
    ((collector.durations.get? label).getD .empty).IsSound := by
  cases found : collector.durations.get? label with
  | none => exact Histogram.isSound_empty
  | some histogram => exact sound label histogram found

theorem IsSound.measured_recorded (sound : collector.IsSound)
    (isNumber : duration.isNaN = false) (other : RequestLabel) :
    (collector.recorded label status duration).measured other =
      collector.measured other + if other = label then 1 else 0 := by
  simp only [measured, recorded, timed, counted, Children.get?_update]
  split
  · rename_i same
    rw [same, Option.getD_some, (sound.getD label).count_observe isNumber]
  · simp

theorem IsSound.recorded (sound : collector.IsSound) (label : RequestLabel) (status : Text)
    (duration : Float) : (collector.recorded label status duration).IsSound := by
  intro other histogram found
  simp only [Collector.recorded, timed, counted, Children.get?_update] at found
  split at found
  · cases found
    exact (sound.getD label).observe duration
  · exact sound other histogram found

theorem IsSound.apply (sound : collector.IsSound) (event : MetricEvent) :
    (collector.apply event).IsSound := by
  cases event with
  | started label => exact sound
  | ended label => exact sound
  | recorded label status duration => exact sound.recorded label status duration
  | online counts => exact (sameRequests_setOnline collector counts).isSound sound
  | health label healthy latency =>
      exact (sameRequests_setHealth collector label healthy latency).isSound sound

/-- Whatever has happened, all buckets are there. -/
theorem isSound_run (events : List MetricEvent) : (run events).IsSound := by
  have kept (start : Collector) (sound : start.IsSound) :
      (events.foldl Collector.apply start).IsSound := by
    induction events generalizing start with
    | nil => exact sound
    | cons event rest ih => exact ih _ (sound.apply event)
  exact kept .empty isSound_empty

end Collector

end FleetGate
