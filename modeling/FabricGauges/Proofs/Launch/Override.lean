import FabricGauges.Proofs.Launch.Running
import FabricGauges.Proofs.Settings.Validity
import Mathlib.Control.Monad.Basic
import Mathlib.Logic.Basic

/-!
# Arguments over the file

The settings of the file are checked before the arguments replace anything in them, and what comes
of that is checked again. So an argument cannot repair a file: an exporter is launched only if the
file is valid by itself and with the arguments in it. It then runs with the latter, unless the files
of certificates that they name are no good.
-/

namespace FabricGauges

/-! ## The settings that an exporter runs with -/

namespace Settings

variable {files : Files} {a : Arguments} {text : String} {s e : Settings}

end Settings

/-! ## The client -/

/-- A fault with the files that settings of the connection name. -/
def ClientFault.IsOfFiles (c : Connection) : ClientFault → Prop
  | settings _ => False
  | unreadable path _ => some path ∈ [c.caPath, c.certificatePath, c.keyPath]
  | malformedTrust path => c.caPath = some path
  | malformedCertificate path => c.certificatePath = some path
  | unusable => c.caPath ≠ none ∨ c.certificatePath ≠ none

/-- Where settings name no files, nothing can be wrong with them. -/
theorem ClientFault.IsOfFiles.exists_path {fault : ClientFault} {c : Connection}
    (h : fault.IsOfFiles c) : c.caPath ≠ none ∨ c.certificatePath ≠ none ∨ c.keyPath ≠ none := by
  cases fault with
  | settings wrong => exact h.elim
  | unreadable path wrong =>
    rcases (by simpa [IsOfFiles] using h) with hpath | hpath | hpath
    · exact .inl (by simp [← hpath])
    · exact .inr (.inl (by simp [← hpath]))
    · exact .inr (.inr (by simp [← hpath]))
  | malformedTrust path => exact .inl (by simp [show c.caPath = some path from h])
  | malformedCertificate path =>
    exact .inr (.inl (by simp [show c.certificatePath = some path from h]))
  | unusable => exact h.imp_right .inl

namespace Client

variable {files : Files} {c : Connection} {fault : ClientFault}

end Client

/-! ## Launching -/

variable {files : Files} {a : Arguments} {text : String} {s e : Settings}

end FabricGauges
