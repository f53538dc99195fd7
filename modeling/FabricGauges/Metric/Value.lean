import FabricGauges.Decimal.Double

/-!
# Values of samples

How the members of documents become values and labels.
-/

namespace FabricGauges

/-- The label of a status that is not known. -/
def unknownStatus : String := "UNKNOWN"

/-- One for what is known to be true, zero otherwise. -/
def flagValue (flag : Option Bool) : Double := if flag = some true then .one else .zero

/-- The label of a status. -/
def statusLabel (status : Option String) : String := status.getD unknownStatus

/-- One for the expected status, zero for any other and for none. -/
def statusValue (status : Option String) (expected : String) : Double :=
  if status = some expected then .one else .zero

/-- The name of a resource: its display name if it has one, its identifier otherwise. -/
def nameOr (displayName : Option String) (id : String) : String := displayName.getD id

end FabricGauges
