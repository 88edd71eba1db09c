import FleetGate.Json.Writer
import FleetGate.Log
import FleetGate.Fault
import FleetGate.Number.Reading

/-!
# The metrics collector

A collector counts requests and their durations by labels, knows how many are under way, and holds
the last reports about online drivers and the health of the infrastructure. Each metric has one
child per label tuple, in the order in which the tuples first came. `apply` lets one operation act
on a collector.
-/

namespace FleetGate

/-- The children of a metric: a value per key, in the order of creation. -/
abbrev Children (κ α : Type) := List (κ × α)

namespace Children

variable {κ α : Type} [DecidableEq κ]

/-- The value of a child. -/
def get? (key : κ) : Children κ α → Option α
  | [] => none
  | (own, value) :: rest => if own = key then some value else get? key rest

/-- Changes the value of a child, which is created first if it is new. -/
def update (key : κ) (fresh : α) (change : α → α) : Children κ α → Children κ α
  | [] => [(key, change fresh)]
  | (own, value) :: rest =>
    if own = key then (own, change value) :: rest else (own, value) :: update key fresh change rest

@[simp]
theorem get?_update_same (key : κ) (fresh : α) (change : α → α) (children : Children κ α) :
    get? key (update key fresh change children) =
      some (change ((get? key children).getD fresh)) := by
  induction children with
  | nil => simp [update, get?]
  | cons child rest ih =>
    obtain ⟨own, value⟩ := child
    by_cases same : own = key <;> simp [update, get?, same, ih]

theorem get?_update_other {key other : κ} (differ : other ≠ key) (fresh : α) (change : α → α)
    (children : Children κ α) :
    get? other (update key fresh change children) = get? other children := by
  induction children with
  | nil => simp [update, get?, differ.symm]
  | cons child rest ih =>
    obtain ⟨own, value⟩ := child
    by_cases same : own = key
    · simp [update, get?, same, differ.symm]
    · by_cases found : own = other
      · simp [update, get?, found, differ]
      · simp [update, get?, same, found, ih]

end Children

/-- Method and route label of a request. -/
structure RequestLabel where
  method : Text
  route : Text
  deriving DecidableEq

/-- A request label with the status of its answer. -/
structure AnswerLabel where
  request : RequestLabel
  status : Text
  deriving DecidableEq

/-- A service with one of its components. -/
structure ComponentLabel where
  service : Text
  component : Text
  deriving DecidableEq

/-- The upper bounds of the duration buckets, the last one infinite. -/
def bucketBounds : List Float :=
  [0.005, 0.01, 0.025, 0.05, 0.075, 0.1, 0.25, 0.5, 0.75, 1.0, 2.5, 5.0, 7.5, 10.0, 1.0 / 0.0]

/-- Durations by bucket, each counted in the first bucket that takes it, and their sum. -/
structure Histogram where
  counts : List Nat
  sum : Float

namespace Histogram

/-- A histogram before its first duration. -/
def empty : Histogram := ⟨bucketBounds.map fun _ => 0, 0⟩

/-- Counts a duration in the first bucket whose bound is not below it. -/
def countIn (duration : Float) : List Float → List Nat → List Nat
  | bound :: bounds, count :: counts =>
    if duration ≤ bound then (count + 1) :: counts else count :: countIn duration bounds counts
  | _, counts => counts

/-- Adds a duration. A duration that is not a number is in no bucket. -/
def observe (histogram : Histogram) (duration : Float) : Histogram :=
  ⟨countIn duration bucketBounds histogram.counts, histogram.sum + duration⟩

/-- The counts of all buckets up to each one. -/
def cumulative : (total : Nat) → List Nat → List Nat
  | _, [] => []
  | total, count :: rest => (total + count) :: cumulative (total + count) rest

/-- The number of durations that are in some bucket. -/
def count (histogram : Histogram) : Nat :=
  histogram.counts.foldr (· + ·) 0

end Histogram

/-- The state of all metrics. -/
structure Collector where
  requests : Children AnswerLabel Nat
  durations : Children RequestLabel Histogram
  active : Children RequestLabel Int
  online : Children Text Float
  health : Children ComponentLabel Bool
  latency : Children ComponentLabel Float

namespace Collector

/-- A collector that has seen nothing. -/
def empty : Collector := ⟨[], [], [], [], [], []⟩

/-- A request came in. -/
def started (collector : Collector) (label : RequestLabel) : Collector :=
  { collector with active := collector.active.update label 0 (· + 1) }

/-- A request is over, however it ended. -/
def ended (collector : Collector) (label : RequestLabel) : Collector :=
  { collector with active := collector.active.update label 0 (· - 1) }

/-- A request was answered. -/
def counted (collector : Collector) (label : RequestLabel) (status : Text) : Collector :=
  { collector with requests := collector.requests.update ⟨label, status⟩ 0 (· + 1) }

/-- The answer to a request took this long. -/
def timed (collector : Collector) (label : RequestLabel) (duration : Float) : Collector :=
  { collector with durations := collector.durations.update label .empty (·.observe duration) }

/-- A request was answered after this long. -/
def recorded (collector : Collector) (label : RequestLabel) (status : Text) (duration : Float) :
    Collector :=
  (collector.counted label status).timed label duration

/-- What is logged about an answered request. -/
def recordLine (label : RequestLabel) (status : Text) (duration : Float) : LogLine :=
  ⟨.debug, "HTTP metrics recorded: method=" ++ label.method ++ " route=" ++ label.route ++
    " status_code=" ++ status ++ " duration_seconds=" ++
    Text.ofString (FloatParts.ofFloat duration).sixPlaces⟩

/-- Forgets all reports about online drivers. -/
def clearOnline (collector : Collector) : Collector :=
  { collector with online := [] }

/-- So many drivers of a fleet are online. -/
def putOnline (collector : Collector) (fleet : Text) (count : Float) : Collector :=
  { collector with online := collector.online.update fleet 0 fun _ => count }

/-- Replaces all reports about online drivers. -/
def setOnline (collector : Collector) (counts : Entries Float) : Collector :=
  counts.foldl (fun done entry => done.putOnline entry.1 entry.2) collector.clearOnline

/-- A component is healthy or not. -/
def putHealth (collector : Collector) (label : ComponentLabel) (healthy : Bool) : Collector :=
  { collector with health := collector.health.update label false fun _ => healthy }

/-- A component took this long to answer; what is below zero or not a number does not count. -/
def putLatency (collector : Collector) (label : ComponentLabel) (latency : Float) : Collector :=
  if 0 ≤ latency then
    { collector with latency := collector.latency.update label 0 fun _ => latency }
  else collector

/-- A report about the health of a component. -/
def setHealth (collector : Collector) (label : ComponentLabel) (healthy : Bool)
    (latency : Float) : Collector :=
  (collector.putHealth label healthy).putLatency label latency

end Collector

/-- The operations on a collector. -/
inductive MetricEvent where
  | started (label : RequestLabel)
  | ended (label : RequestLabel)
  | recorded (label : RequestLabel) (status : Text) (duration : Float)
  | online (counts : Entries Float)
  | health (label : ComponentLabel) (healthy : Bool) (latency : Float)

/-- Lets one operation act on a collector. -/
def Collector.apply (collector : Collector) : MetricEvent → Collector
  | .started label => collector.started label
  | .ended label => collector.ended label
  | .recorded label status duration => collector.recorded label status duration
  | .online counts => collector.setOnline counts
  | .health label healthy latency => collector.setHealth label healthy latency

/-- The collector after a history of operations. -/
def Collector.run (events : List MetricEvent) : Collector :=
  events.foldl Collector.apply .empty

end FleetGate
