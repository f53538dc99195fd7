import FabricGauges.Json.Malformed
import FabricGauges.Text.Quoted

/-!
# Faults of documents

Why a text or a value is not the document that was expected. A malformed text, a text that ends too
early and a well-formed document of the wrong shape are told apart; the message of a wrong shape
says what was found and what was expected.
-/

namespace FabricGauges

/-- What was found where something else was expected. -/
inductive Found where
  | integer (value : Int)
  /-- A number with a fraction or an exponent, as it is shown. -/
  | float (shown : String)
  | bool (value : Bool)
  | text (value : String)
  /-- The empty value, under the name that its format gives it. -/
  | null (shown : String)
  | list
  | record
deriving DecidableEq, Repr

namespace Found

/-- How a message names what was found. -/
def message : Found → String
  | integer value => s!"integer `{value}`"
  | float shown => s!"floating point `{shown}`"
  | bool value => s!"boolean `{value}`"
  | text value => "string " ++ Text.Quoted.quote value
  | null shown => shown
  | list => "sequence"
  | record => "map"

end Found

/-- A literal of the configuration language that names no value of the kind asked for. -/
inductive BadLiteral where
  | number
  | numberTooLarge
  | integer
  | hexadecimal
  | loneTrailSurrogate
  | missingTrailSurrogate
  | otherThanTrailSurrogate
deriving DecidableEq, Repr

namespace BadLiteral

/-- The message of a bad literal. -/
def message : BadLiteral → String
  | number => "error parsing number"
  | numberTooLarge => "error parsing number: too large"
  | integer => "error parsing integer"
  | hexadecimal => "error parsing hex"
  | loneTrailSurrogate => "unexpected unicode trail surrogate"
  | missingTrailSurrogate => "missing unicode trail surrogate"
  | otherThanTrailSurrogate => "expecting unicode trail surrogate"

end BadLiteral

/-- Why something is not the document that was expected. -/
inductive Fault where
  | malformed (cause : Malformed)
  | literal (cause : BadLiteral)
  | wrongType (found : Found) (expected : String)
  | outOfRange (found : Found) (expected : String)
  | wrongLength (length : Nat) (expected : String)
  | duplicateMember (name : String)
  | missingMember (name : String)
  | unknownChoice (name : String) (choices : List String)
  | notAChoice
  | emptyChoice
deriving DecidableEq, Repr

namespace Fault

/-- The three kinds of faults. -/
inductive Category where
  /-- The text is not well formed. -/
  | malformed
  /-- The text ends too early. -/
  | truncated
  /-- The document is well formed and has the wrong shape. -/
  | shape
deriving DecidableEq, Repr

/-- The kind of a fault. -/
def category : Fault → Category
  | malformed cause => if cause.isTruncation then .truncated else .malformed
  | _ => .shape

/-- Names in quotes, as a message lists them. -/
def alternatives : List String → String
  | [] => "there are no variants"
  | [one] => s!"expected `{one}`"
  | [one, two] => s!"expected `{one}` or `{two}`"
  | many => "expected one of " ++ ", ".intercalate (many.map fun name => s!"`{name}`")

/-- The message of a fault. -/
def message : Fault → String
  | malformed cause => cause.message
  | literal cause => cause.message
  | wrongType found expected => s!"invalid type: {found.message}, expected {expected}"
  | outOfRange found expected => s!"invalid value: {found.message}, expected {expected}"
  | wrongLength length expected => s!"invalid length {length}, expected {expected}"
  | duplicateMember name => s!"duplicate field `{name}`"
  | missingMember name => s!"missing field `{name}`"
  | unknownChoice name choices => s!"unknown variant `{name}`, {alternatives choices}"
  | notAChoice => "expected a string or an object"
  | emptyChoice => "expected a nonempty object"

end Fault

end FabricGauges
