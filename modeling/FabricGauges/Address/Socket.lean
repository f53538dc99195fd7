import FabricGauges.Address.Ip

/-!
# Socket addresses

Where the exporter listens: an IP address and a port. An IPv6 address stands in brackets and may
carry the number of a scope.
-/

namespace FabricGauges

open Address

/-- An address with a port. -/
inductive SocketAddress where
  | ipv4 (address : Ipv4) (port : UInt16)
  | ipv6 (address : Ipv6) (scope : UInt32) (port : UInt16)
deriving DecidableEq, Repr

namespace SocketAddress

/-- A port after a colon, with nothing behind it. -/
def port? : List Char → Option UInt16
  | ':' :: s =>
    match number? UInt16.size s with
    | some (n, []) => some (UInt16.ofNat n)
    | _ => none
  | _ => none

/-- The scope at the start of a text; there may be none. -/
def scope (s : List Char) : UInt32 × List Char :=
  match s with
  | '%' :: t =>
    match number? UInt32.size t with
    | some (n, rest) => (UInt32.ofNat n, rest)
    | none => (0, s)
  | _ => (0, s)

/-- The address that a text writes. -/
def ofText? (text : String) : Option SocketAddress :=
  match text.toList with
  | '[' :: s => do
    let (address, s) ← Ipv6.read? s
    match scope s with
    | (scope, ']' :: s) => return .ipv6 address scope (← port? s)
    | _ => none
  | s => do
    let (address, s) ← Ipv4.read? s
    return .ipv4 address (← port? s)

/-- The port of an address. -/
def port : SocketAddress → UInt16
  | ipv4 _ p => p
  | ipv6 _ _ p => p

/-- The written form of an address; a scope of zero is left out. -/
def text : SocketAddress → String
  | ipv4 address port => s!"{address.text}:{port.toNat}"
  | ipv6 address scope port =>
    let scope := if scope = 0 then "" else s!"%{scope.toNat}"
    s!"[{address.text}{scope}]:{port.toNat}"

end SocketAddress

end FabricGauges
