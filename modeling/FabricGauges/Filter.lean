import FabricGauges.Manager.Gateway

/-!
# Allow-lists

An allow-list names resources by display name or identifier; an empty one accepts everything. There
is one for each kind of resource that can be left out.
-/

namespace FabricGauges

open Document (member ofVal toVal)

/-- Display names and identifiers of accepted resources; none accepts all. -/
structure AllowList where
  entries : List String
deriving DecidableEq

namespace AllowList

/-- Whether everything is accepted. -/
def isEmpty (a : AllowList) : Bool := a.entries.isEmpty

/-- Whether a resource is accepted. -/
def includes (a : AllowList) (displayName : Option String) (id : String) : Bool :=
  a.entries.isEmpty || a.entries.any fun entry => entry == id || some entry == displayName

instance : Document AllowList where
  shape := Document.shape (List String)
  ofVal v := ⟨ofVal v⟩
  toVal a := toVal a.entries
  toVal_ofVal := Document.toVal_ofVal
  ofVal_toVal a := congrArg AllowList.mk (Document.ofVal_toVal a.entries)

end AllowList

/-- The allow-lists of all kinds. -/
structure Filters where
  tier0 : AllowList
  tier1 : AllowList
  balancer : AllowList
  virtualServer : AllowList
deriving DecidableEq

namespace Filters

/-- The filters that accept everything. -/
def none : Filters := ⟨⟨[]⟩, ⟨[]⟩, ⟨[]⟩, ⟨[]⟩⟩

/-- The allow-list of a kind of gateways. -/
def gateways (f : Filters) : GatewayKind → AllowList
  | .tier0 => f.tier0
  | .tier1 => f.tier1

instance : Document Filters where
  shape := .record "Filters" <|
    member AllowList (.optional "tier0") <|
    member AllowList (.optional "tier1") <|
    member AllowList (.optional "load_balancer") <|
    member AllowList (.optional "virtual_server") .nil
  ofVal := fun (a, b, c, d, ()) => ⟨ofVal a, ofVal b, ofVal c, ofVal d⟩
  toVal x := (toVal x.tier0, toVal x.tier1, toVal x.balancer, toVal x.virtualServer, ())
  toVal_ofVal := fun (a, b, c, d, ()) => by simp; rfl
  ofVal_toVal x := by simp

end Filters

end FabricGauges
