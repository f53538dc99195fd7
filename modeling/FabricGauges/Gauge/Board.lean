import FabricGauges.Gauge.Series
import FabricGauges.Metric.Reset
import FabricGauges.Metric.Sample

/-!
# The board

Everything that is published at a time: the series of all families, and two gauges about the cycles
themselves. A stage is published by resetting its families and setting its samples.
-/

namespace FabricGauges

/-- A length of time. -/
structure Duration where
  nanoseconds : Nat
deriving DecidableEq, Repr

namespace Duration

/-- Whole milliseconds. -/
def ofMilliseconds (ms : Nat) : Duration := ⟨ms * 1000000⟩

/-- Whole seconds. -/
def ofSeconds (secs : Nat) : Duration := ⟨secs * 1000000000⟩

/-- The full milliseconds of a duration. -/
def milliseconds (d : Duration) : Nat := d.nanoseconds / 1000000

/-- The full seconds of a duration. -/
def seconds (d : Duration) : Nat := d.nanoseconds / 1000000000

/-- A duration in seconds. -/
def toDouble (d : Duration) : Double := .ofSeconds d.seconds (d.nanoseconds % 1000000000)

end Duration

/-- What identifies a series: its family and its label values. -/
abbrev SeriesKey := Metric × List String

/-- Everything that is published. -/
structure Board where
  series : Series SeriesKey
  /-- Whether the last cycle failed. -/
  scrapeError : Double
  /-- How long the last successful cycle took, in seconds. -/
  scrapeDuration : Double

namespace Board

/-- The board before the first cycle. -/
def blank : Board := ⟨.empty, .zero, .zero⟩

/-- The board with some samples set one after the other. -/
def setAll (b : Board) (samples : List Sample) : Board :=
  { b with series := b.series.setAll (samples.map fun s => ((s.metric, s.labels), s.value)) }

/-- The board without the series of some metrics. -/
def clear (b : Board) (cleared : Metric → Bool) : Board :=
  { b with series := b.series.clear cleared }

/-- The board with some families reset. -/
def reset (b : Board) (families : List Metric) : Board :=
  { b with series := b.series.reset families }

/-- The board after a stage has reset its families and set its samples. -/
def publish (b : Board) (stage : Stage) (samples : List Sample) : Board :=
  (b.reset stage.resets).setAll samples

/-- The board after a cycle that succeeded. -/
def succeed (b : Board) (took : Duration) : Board :=
  { b with scrapeError := .zero, scrapeDuration := took.toDouble }

/-- The board after a cycle that failed. -/
def fail (b : Board) : Board := { b with scrapeError := .one }

/-- The series of a family. -/
def family (b : Board) (m : Metric) : List (List String × Double) := b.series.family m

end Board

end FabricGauges
