import FabricGauges.Text.Percent

/-!
# IP addresses

The written forms of IPv4 and IPv6 addresses. An IPv4 address is four octets without leading zeros.
An IPv6 address is eight groups of hexadecimal digits; `::` stands for at least one group of zeros,
and the last two groups may be written as an IPv4 address.
-/

namespace FabricGauges

/-! ## Digits -/

namespace Address

/-- The value of a digit of a base up to sixteen. -/
def digit? (base : Nat) (c : Char) : Option Nat := (Text.hexValue? c).filter (· < base)

/-- The digits at the start of a text, and the text after them. -/
def digits (base : Nat) : List Char → List Nat × List Char
  | [] => ([], [])
  | c :: rest =>
    match digit? base c with
    | none => ([], c :: rest)
    | some d => let (ds, after) := digits base rest; (d :: ds, after)

/-- The number that some digits write. -/
def ofDigits (base : Nat) (ds : List Nat) : Nat := ds.foldl (fun n d => n * base + d) 0

/-- A decimal number below a limit at the start of a text; leading zeros are allowed. -/
def number? (limit : Nat) (s : List Char) : Option (Nat × List Char) :=
  match digits 10 s with
  | ([], _) => none
  | (ds, rest) => if ofDigits 10 ds < limit then some (ofDigits 10 ds, rest) else none

end Address

open Address

/-! ## IPv4 -/

/-- An IPv4 address, octet by octet. -/
structure Ipv4 where
  first : UInt8
  second : UInt8
  third : UInt8
  fourth : UInt8
deriving DecidableEq, Repr

namespace Ipv4

/-- An octet at the start of a text. -/
def octet? (s : List Char) : Option (UInt8 × List Char) :=
  match digits 10 s with
  | ([], _) => none
  | (0 :: _ :: _, _) => none
  | (ds, rest) => if ofDigits 10 ds < 256 then some (UInt8.ofNat (ofDigits 10 ds), rest) else none

/-- The text after a dot. -/
def afterDot? : List Char → Option (List Char)
  | '.' :: rest => some rest
  | _ => none

/-- An address at the start of a text. -/
def read? (s : List Char) : Option (Ipv4 × List Char) := do
  let (first, s) ← octet? s
  let (second, s) ← octet? (← afterDot? s)
  let (third, s) ← octet? (← afterDot? s)
  let (fourth, s) ← octet? (← afterDot? s)
  return (⟨first, second, third, fourth⟩, s)

/-- The address of a number below 2^32. -/
def ofNat (n : Nat) : Ipv4 :=
  ⟨UInt8.ofNat (n >>> 24), UInt8.ofNat (n >>> 16), UInt8.ofNat (n >>> 8), UInt8.ofNat n⟩

/-- The two groups of an IPv6 address that an IPv4 address stands for. -/
def groups (a : Ipv4) : List UInt16 :=
  [UInt16.ofNat (a.first.toNat * 256 + a.second.toNat),
    UInt16.ofNat (a.third.toNat * 256 + a.fourth.toNat)]

/-- The written form of an address. -/
def text (a : Ipv4) : String := s!"{a.first.toNat}.{a.second.toNat}.{a.third.toNat}.{a.fourth.toNat}"

end Ipv4

/-! ## IPv6 -/

/-- An IPv6 address, group by group. -/
structure Ipv6 where
  groups : Vector UInt16 8
deriving DecidableEq, Repr

namespace Ipv6

/-- One to four hexadecimal digits at the start of a text. -/
def group? (s : List Char) : Option (UInt16 × List Char) :=
  match digits 16 s with
  | ([], _) => none
  | (ds, rest) => if ds.length ≤ 4 then some (UInt16.ofNat (ofDigits 16 ds), rest) else none

/-- Groups at the start of a text. -/
structure Run where
  groups : List UInt16
  /-- Whether the last two groups were written as an IPv4 address. -/
  endsInIpv4 : Bool
  rest : List Char

/-- What follows a colon; nothing has to precede the first group. -/
def afterColon? (first : Bool) (s : List Char) : Option (List Char) :=
  if first then some s
  else match s with
    | ':' :: rest => some rest
    | _ => none

/-- The groups at the start of a text, at most as many as there is room for. -/
def run : (room : Nat) → (first : Bool) → List Char → Run
  | 0, _, s => ⟨[], false, s⟩
  | room + 1, first, s =>
    match afterColon? first s with
    | none => ⟨[], false, s⟩
    | some t =>
      match if room = 0 then none else Ipv4.read? t with
      | some (a, rest) => ⟨a.groups, true, rest⟩
      | none =>
        match group? t with
        | none => ⟨[], false, s⟩
        | some (g, rest) =>
          let more := run room false rest
          ⟨g :: more.groups, more.endsInIpv4, more.rest⟩

/-- An address from its groups; groups that are not given are zero. -/
def ofGroups (gs : List UInt16) : Ipv6 := ⟨Vector.ofFn fun i : Fin 8 => gs[i.val]?.getD 0⟩

/-- An address at the start of a text. -/
def read? (s : List Char) : Option (Ipv6 × List Char) :=
  let head := run 8 true s
  if head.groups.length = 8 then some (ofGroups head.groups, head.rest)
  else if head.endsInIpv4 then none
  else match head.rest with
    | ':' :: ':' :: rest =>
      let tail := run (7 - head.groups.length) true rest
      let zeros := List.replicate (8 - head.groups.length - tail.groups.length) 0
      some (ofGroups (head.groups ++ zeros ++ tail.groups), tail.rest)
    | _ => none

/-- The number of zero groups from a place on. -/
def zerosFrom (gs : List UInt16) (place : Nat) : Nat := ((gs.drop place).takeWhile (· == 0)).length

/-- Where the longest run of zero groups begins, and its length; of equal runs the first. -/
def longestZeros (gs : List UInt16) : Nat × Nat :=
  (List.range gs.length).foldl (fun best place =>
    if best.2 < zerosFrom gs place then (place, zerosFrom gs place) else best) (0, 0)

/-- Groups separated by colons. -/
def joined (gs : List UInt16) : String :=
  ":".intercalate (gs.map fun g => String.ofList (Nat.toDigits 16 g.toNat))

/-- The written form of an address: the longest run of at least two zero groups is left out, and an
address that stands for an IPv4 address ends in that. -/
def text (a : Ipv6) : String :=
  let gs := a.groups.toList
  match gs with
  | [0, 0, 0, 0, 0, 0xffff, g, h] =>
    "::ffff:" ++ (Ipv4.ofNat (g.toNat * UInt16.size + h.toNat)).text
  | _ =>
    let (start, length) := longestZeros gs
    if 1 < length then joined (gs.take start) ++ "::" ++ joined (gs.drop (start + length))
    else joined gs

end Ipv6

end FabricGauges
