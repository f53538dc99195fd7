/-!
# Files

The exporter reads the file of its settings and the files of certificates and keys. A collection of
files gives the bytes at each path, or says why there are none.
-/

namespace FabricGauges

/-- Why a file could not be read. -/
inductive FileFault where
  | missing
  | directory
  /-- The bytes are not the UTF-8 form of a text. -/
  | notText
  | other (reason : String)
deriving DecidableEq, Repr

/-- The message of a fault. -/
def FileFault.message : FileFault → String
  | missing => "No such file or directory (os error 2)"
  | directory => "Is a directory (os error 21)"
  | notText => "stream did not contain valid UTF-8"
  | other reason => reason

/-- The files that can be read. -/
abbrev Files := String → Except FileFault ByteArray

/-- The text of a file. -/
def Files.text (files : Files) (path : String) : Except FileFault String := do
  match String.fromUTF8? (← files path) with
  | some text => .ok text
  | none => .error .notText

end FabricGauges
