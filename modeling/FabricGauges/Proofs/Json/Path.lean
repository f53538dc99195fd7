import FabricGauges.Metric.Sample
import FabricGauges.Document.Basic

/-!
# Members by their paths

A value deep in a document is found by the names of the members that lead to it. What is found there
is a text, a number or a list, if it is what is looked for. A document that has been read is written
with the same values, so they are found in it by the names that the manager gives them.
-/

namespace FabricGauges

namespace Json

/-- What is found at the end of a path of names. -/
def at? : Json → List String → Option Json
  | json, [] => some json
  | json, name :: path => (json.member? name).bind fun found => found.at? path

def bool? : Json → Option Bool
  | bool value => some value
  | _ => none

def text? : Json → Option String
  | text value => some value
  | _ => none

def integer? : Json → Option Int
  | number (.integer value) => some value
  | _ => none

/-- A number of either form as a double. -/
def double? : Json → Option Double
  | number (.integer value) => some (.ofInt value)
  | number (.double value) => some value
  | _ => none

def items? : Json → Option (List Json)
  | list items => some items
  | _ => none

end Json

namespace Document

variable {α : Type} [Document α]

/-- A flag that may be missing is read as it was written. -/
@[simp] theorem bool?_toJson (o : Option Bool) : (toJson o).bool? = o := by cases o <;> rfl

@[simp] theorem text?_toJson (o : Option String) : (toJson o).text? = o := by cases o <;> rfl

@[simp] theorem double?_toJson (o : Option Double) : (toJson o).double? = o := by cases o <;> rfl

/-- An integer that may be missing is read as the double nearest to it. -/
@[simp] theorem double?_toJson_int (o : Option Int64) :
    (toJson o).double? = o.map Sample.ofInt64 := by cases o <;> rfl

/-- The items of a list are those that were written. -/
@[simp] theorem items?_toJson (as : List α) : (toJson as).items? = some (as.map toJson) := by
  have hitems : ((as.map toVal : List (shape α).Val).map (shape α).encode) = as.map toJson := by
    rw [List.map_map]
    rfl
  exact congrArg some hitems

/-- Behind a member without a value nothing is found. -/
theorem at?_toJson_option (o : Option α) (name : String) (path : List String) :
    (toJson o).at? (name :: path) = o.bind fun a => (toJson a).at? (name :: path) := by
  cases o <;> rfl

end Document

end FabricGauges
