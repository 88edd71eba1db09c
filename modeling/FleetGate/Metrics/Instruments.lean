import FleetGate.Metrics.Collector

/-!
# Instruments

What a service measures itself with: a stopwatch and, unless metrics are off, a collector.
-/

namespace FleetGate

/-- A clock for durations: the readings that it gives one after the other, and how many of them
have been taken. -/
structure Stopwatch where
  reading : Nat → Float
  taken : Nat

/-- The next reading of a stopwatch. -/
def Stopwatch.read (watch : Stopwatch) : Float × Stopwatch :=
  (watch.reading watch.taken, { watch with taken := watch.taken + 1 })

/-- What measures a service: a stopwatch, and a collector unless metrics are off. -/
structure Instruments where
  collector : Option Collector
  watch : Stopwatch

namespace Instruments

/-- Lets the collector change, if there is one. -/
def update (instruments : Instruments) (change : Collector → Collector) : Instruments :=
  { instruments with collector := instruments.collector.map change }

/-- Takes the time. -/
def read (instruments : Instruments) : Float × Instruments :=
  let (time, watch) := instruments.watch.read
  (time, { instruments with watch := watch })

end Instruments

end FleetGate
