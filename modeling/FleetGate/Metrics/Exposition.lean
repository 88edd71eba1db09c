import FleetGate.Metrics.Collector
import FleetGate.Number.Layout

/-!
# The text exposition

A collector is exposed as samples: a name, labels in order of their names, a value. The text form
has two comment lines per metric and one line per sample.
-/

namespace FleetGate

/-- One exposed value. -/
structure Sample where
  name : Text
  labels : Entries Text
  value : Float

/-- The kinds of metric. -/
inductive MetricType where
  | counter
  | gauge
  | histogram
  deriving DecidableEq

/-- The name of a kind of metric. -/
def MetricType.name : MetricType → String
  | counter => "counter"
  | gauge => "gauge"
  | histogram => "histogram"

/-- A metric with all its samples. -/
structure MetricFamily where
  name : String
  help : String
  type : MetricType
  samples : List Sample

namespace Sample

/-- A character of a label value. -/
def escapePoint (point : CodePoint) : Text :=
  if point.is '\\' then Text.ofString "\\\\"
  else if point.is '\n' then Text.ofString "\\n"
  else if point.is '"' then Text.ofString "\\\""
  else [point]

/-- A label with its value. -/
def label (entry : Text × Text) : Text :=
  entry.1 ++ "=\"" ++ entry.2.flatMap escapePoint ++ "\""

/-- The line of a sample. -/
def line (sample : Sample) : Text :=
  sample.name ++ "\x7b" ++ Text.joinWith "," (sample.labels.map label) ++ "\x7d " ++
    Text.ofString (FloatParts.ofFloat sample.value).exposed

end Sample

/-- The labels of a request. -/
def RequestLabel.labels (label : RequestLabel) : Entries Text :=
  [("method", label.method), ("route", label.route)]

/-- The labels of an answer. -/
def AnswerLabel.labels (label : AnswerLabel) : Entries Text :=
  label.request.labels ++ [(Text.ofString "status_code", label.status)]

/-- The labels of a component. -/
def ComponentLabel.labels (label : ComponentLabel) : Entries Text :=
  [("component", label.component), ("service", label.service)]

namespace Histogram

/-- The label of a bucket. -/
def boundLabel (bound : Float) : Text :=
  Text.ofString (FloatParts.ofFloat bound).exposed

/-- The samples of a histogram: its buckets, its count and its sum. -/
def samples (name : String) (labels : Entries Text) (histogram : Histogram) : List Sample :=
  let totals := cumulative 0 histogram.counts
  let buckets := (bucketBounds.zip totals).map fun (bound, total) =>
    Sample.mk (Text.ofString (name ++ "_bucket")) ((Text.ofString "le", boundLabel bound) :: labels)
      (Float.ofNat total)
  buckets ++
    [⟨Text.ofString (name ++ "_count"), labels, Float.ofNat histogram.count⟩,
      ⟨Text.ofString (name ++ "_sum"), labels, histogram.sum⟩]

end Histogram

namespace Collector

/-- All metrics with their samples. -/
def families (collector : Collector) : List MetricFamily :=
  [⟨"http_requests_total", "Total number of HTTP requests by method, route, and status code",
      .counter, collector.requests.map fun (label, count) =>
        ⟨"http_requests_total", label.labels, Float.ofNat count⟩⟩,
    ⟨"http_request_duration_seconds", "Duration of HTTP requests in seconds", .histogram,
      collector.durations.flatMap fun (label, histogram) =>
        histogram.samples "http_request_duration_seconds" label.labels⟩,
    ⟨"http_requests_active", "Number of active HTTP requests", .gauge,
      collector.active.map fun (label, count) =>
        ⟨"http_requests_active", label.labels, Float.ofInt count⟩⟩,
    ⟨"online_drivers_total", "Total number of online drivers from database", .gauge,
      collector.online.map fun (fleet, count) =>
        ⟨"online_drivers_total", [("fleet", fleet)], count⟩⟩,
    ⟨"infrastructure_health_status",
      "Health status of infrastructure components (1=healthy, 0=unhealthy)", .gauge,
      collector.health.map fun (label, healthy) =>
        ⟨"infrastructure_health_status", label.labels, if healthy then 1 else 0⟩⟩,
    ⟨"infrastructure_connection_latency_ms",
      "Connection latency to infrastructure components in milliseconds", .gauge,
      collector.latency.map fun (label, latency) =>
        ⟨"infrastructure_connection_latency_ms", label.labels, latency⟩⟩]

/-- All samples in the order of exposition. -/
def samples (collector : Collector) : List Sample :=
  collector.families.flatMap (·.samples)

/-- The lines of all samples. -/
def sampleLines (collector : Collector) : List Text :=
  collector.samples.map (·.line)

/-- The value of the sample with a name and exactly these labels. -/
def sampleValue? (collector : Collector) (name : Text) (labels : Entries Text) : Option Float :=
  (collector.samples.find? fun sample =>
    sample.name == name && sample.labels.length == labels.length &&
      sample.labels.all fun (key, value) => Entries.find key labels == some value).map (·.value)

/-- The lines of a metric. -/
def familyLines (family : MetricFamily) : List Text :=
  Text.ofString ("# HELP " ++ family.name ++ " " ++ family.help) ::
    Text.ofString ("# TYPE " ++ family.name ++ " " ++ family.type.name) ::
    family.samples.map (·.line)

/-- The text form of a collector. -/
def exposition (collector : Collector) : Text :=
  (collector.families.flatMap familyLines).flatMap (· ++ Text.ofChar '\n')

end Collector

end FleetGate
