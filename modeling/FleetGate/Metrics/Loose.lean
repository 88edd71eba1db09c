import FleetGate.Metrics.Collector
import FleetGate.Number.Spelled

/-!
# Measurements from loose data

Reports may arrive as JSON values. A measurement must be a number; a report about drivers may
also spell its number as a text. A value that is none stops the report where it stands, and what
was written before stays written.
-/

namespace FleetGate

namespace Measure

/-- The complaint about an integer beyond the range of doubles. -/
def tooLarge : Fault := ⟨.overflow, "int too large to convert to float"⟩

/-- The complaint about a value that is no number. -/
def notNumber (value : Json) : Fault :=
  ⟨.wrongType, "float() argument must be a string or a real number, not '" ++
    Text.ofString value.typeName ++ "'"⟩

/-- The double of a number or flag. -/
def ofNumber (value : Json) : Except Fault Float :=
  match value with
  | .float number => .ok number
  | .bool flag => .ok (if flag then 1 else 0)
  | .int number =>
    match floatOfInt? number with
    | some float => .ok float
    | none => .error tooLarge
  | other => .error (notNumber other)

/-- The double of a number, a flag or a text that spells one. -/
def ofJson (value : Json) : Except Fault Float :=
  match value with
  | .string text => text.readFloat
  | other => ofNumber other

end Measure

namespace Collector

/-- Records an answer. The answer is counted, and its histogram exists, before the duration is
looked at. -/
def recordedFrom (collector : Collector) (label : RequestLabel) (status duration : Json) :
    Collector × Except Fault LogLine :=
  let counted := collector.counted label status.display
  match Measure.ofNumber duration with
  | .ok duration =>
    (counted.timed label duration, .ok (recordLine label status.display duration))
  | .error fault =>
    ({ counted with durations := counted.durations.update label .empty id }, .error fault)

/-- Writes reports about online drivers up to the first that is no number; that one leaves its
child in place. -/
def putOnlineFrom (collector : Collector) : Entries Json → Collector × Except Fault Unit
  | [] => (collector, .ok ())
  | (fleet, count) :: rest =>
    match Measure.ofJson count with
    | .ok count => (collector.putOnline fleet count).putOnlineFrom rest
    | .error fault =>
      ({ collector with online := collector.online.update fleet 0 id }, .error fault)

/-- Replaces all reports about online drivers. -/
def setOnlineFrom (collector : Collector) (counts : Entries Json) :
    Collector × Except Fault Unit :=
  collector.clearOnline.putOnlineFrom counts

/-- A report about the health of a component. Its truth value decides about health. -/
def setHealthFrom (collector : Collector) (label : ComponentLabel) (healthy latency : Json) :
    Collector × Except Fault Unit :=
  let reported := collector.putHealth label healthy.truthy
  match Measure.ofNumber latency with
  | .ok latency => (reported.putLatency label latency, .ok ())
  | .error fault =>
    match latency with
    | .int number =>
      if number < 0 then (reported, .ok ())
      else ({ reported with latency := reported.latency.update label 0 id }, .error fault)
    | _ => (reported, .error fault)

end Collector

end FleetGate
