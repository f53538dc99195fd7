import FabricGauges.Decimal.Layout
import FabricGauges.Gauge.Board

/-!
# The exposition

The text that is served: two header lines for each family, one line for each series, and a last
line. Names, label values and descriptions are written as they are.
-/

namespace FabricGauges

/-- A part of the exposition. -/
inductive Exposed where
  /-- A gauge without labels. -/
  | gauge (name : String) (help : String) (value : Double)
  | family (family : Family) (series : List (List String × Double))

namespace Exposition

/-- The content type of the exposition. -/
def contentType : String := "application/openmetrics-text; version=1.0.0; charset=utf-8"

/-- A name under a namespace. -/
def fullName (space : Option String) (name : String) : String :=
  match space with
  | some space => space ++ "_" ++ name
  | none => name

/-- The lines before the series of a family. -/
def header (name help : String) : List String :=
  [s!"# HELP {name} {help}.", s!"# TYPE {name} gauge"]

/-- A label with its value. -/
def label (name value : String) : String := name ++ "=\"" ++ value ++ "\""

/-- The labels of a series in braces. -/
def labelSet (names values : List String) : String :=
  "\x7b" ++ ",".intercalate (List.zipWith label names values) ++ "\x7d"

/-- The line of a series. -/
def seriesLine (name : String) (labels : List String) (series : List String × Double) : String :=
  name ++ labelSet labels series.1 ++ " " ++ Layout.sample.render series.2

/-- The lines of a part. -/
def lines (space : Option String) : Exposed → List String
  | .gauge name help value =>
    header (fullName space name) help ++
      [fullName space name ++ " " ++ Layout.sample.render value]
  | .family f series =>
    header (fullName space f.name) f.help ++
      series.map (seriesLine (fullName space f.name) f.labels)

/-- The last line. -/
def lastLine : String := "# EOF"

/-- The whole text. -/
def render (space : Option String) (parts : List Exposed) : String :=
  String.join ((parts.flatMap (lines space) ++ [lastLine]).map (· ++ "\n"))

end Exposition

namespace Board

/-- The parts of the exposition of a board. -/
def exposed (b : Board) : List Exposed :=
  .gauge "scrape_error" "1 if the last scrape cycle failed, 0 otherwise" b.scrapeError ::
    .gauge "scrape_duration_seconds" "Duration of the last successful scrape cycle"
      b.scrapeDuration ::
    Metric.all.map fun m => .family m.family (b.family m)

/-- The exposition of a board under a namespace. -/
def render (b : Board) (space : String) : String := Exposition.render (some space) b.exposed

end Board

end FabricGauges
