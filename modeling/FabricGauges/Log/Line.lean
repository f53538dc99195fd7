import FabricGauges.Json.Printer
import FabricGauges.Log.Event
import FabricGauges.Settings.Basic

/-!
# Log lines

An event is written as one line: as a JSON record, or as its level, its message and its fields. A
logger writes the events up to its level, and the settings say which level that is.
-/

namespace FabricGauges

namespace Event

/-- A field as text shows it. -/
def fieldText (field : String × Json) : String :=
  field.1 ++ "=" ++
    match field.2 with
    | .text s => s
    | json => json.render

/-- The line of an event. -/
def line (e : Event) : LogFormat → String
  | .json =>
    (Json.record [("level", .text e.level.name),
      ("fields", .record (("message", .text e.message) :: e.fields))]).render
  | .text => " ".intercalate (e.level.name :: e.message :: e.fields.map fieldText)

end Event

/-- Which events are written, and how. -/
structure Logger where
  level : LogLevel
  format : LogFormat
deriving DecidableEq, Repr

namespace Logger

/-- The line of an event, if it is written at all. -/
def line? (l : Logger) (e : Event) : Option String :=
  if e.level.isWithin l.level then some (e.line l.format) else none

end Logger

/-- The logger of some settings. -/
def Settings.logger (s : Settings) : Logger := ⟨.configured s.log.level, s.log.format⟩

end FabricGauges
