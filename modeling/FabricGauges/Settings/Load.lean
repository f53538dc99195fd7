import FabricGauges.Json5.Draft
import FabricGauges.Settings.Basic
import FabricGauges.Settings.File

/-!
# Loading settings

Settings are read from a text in JSON5. A text that is no JSON5, a document of the wrong shape and
settings that are not valid are told apart.
-/

namespace FabricGauges

/-- Why settings could not be loaded. -/
inductive LoadFault where
  | unreadable (fault : FileFault)
  /-- The text is no JSON5. -/
  | unparsable
  | shape (fault : Fault)
  | invalid (cause : Invalidity)
deriving DecidableEq, Repr

namespace LoadFault

/-- The message of a fault. -/
def message : LoadFault → String
  | unreadable fault => "Failed to read config file: " ++ fault.message
  | unparsable => "Failed to parse config:"
  | shape fault => "Failed to parse config: " ++ fault.message
  | invalid cause => "Validation error: " ++ cause.message

/-- What a fault goes back to, where the message has it as a part. -/
def cause? : LoadFault → Option String
  | unreadable fault => some fault.message
  | shape fault => some fault.message
  | unparsable | invalid _ => none

end LoadFault

namespace Settings

/-- The settings that a text writes, valid or not. -/
def decode (text : String) : Except LoadFault Settings :=
  match Json5.draft? text with
  | none => .error .unparsable
  | some draft => (Document.ofDraft Settings draft).mapError .shape

/-- The settings that a text writes, if they are valid. -/
def parse (text : String) : Except LoadFault Settings := do
  let settings ← decode text
  settings.check.mapError .invalid
  return settings

/-- The settings of a file, if they are valid. -/
def load (files : Files) (path : String) : Except LoadFault Settings := do
  parse (← (files.text path).mapError .unreadable)

end Settings

end FabricGauges
