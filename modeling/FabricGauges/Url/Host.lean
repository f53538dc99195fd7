import FabricGauges.Address.Ip
import FabricGauges.Text.Letters
import FabricGauges.Text.Pieces
import FabricGauges.Text.Unprintable
import FabricGauges.Url.Punycode

/-!
# Hosts

A host is a domain name or an address. A name whose last label is a number has to be an IPv4
address, which may be written with fewer than four numbers and in octal or hexadecimal digits; an
IPv6 address stands in brackets. Percent escapes in a name are resolved and its letters become
small.
-/

namespace FabricGauges

/-- Why a text is not a URL of the manager. -/
inductive UrlFault where
  | relative
  | emptyHost
  | domain
  | ipv4
  | ipv6
  | port
  /-- The host of a scheme without known structure holds a character that ends a host. -/
  | hostCharacter
  /-- The URL is good, but of another scheme. -/
  | foreignScheme
deriving DecidableEq, Repr

/-- The message of a fault. -/
def UrlFault.message : UrlFault → String
  | relative => "relative URL without a base"
  | emptyHost => "empty host"
  | domain => "invalid international domain name"
  | ipv4 => "invalid IPv4 address"
  | ipv6 => "invalid IPv6 address"
  | port => "invalid port number"
  | hostCharacter => "invalid domain character"
  | foreignScheme => "neither http nor https"

/-- What a URL points at. -/
inductive Host where
  | domain (name : String)
  | ipv4 (address : Ipv4)
  | ipv6 (address : Ipv6)
deriving DecidableEq, Repr

namespace Host

/-- The written form of a host. -/
def text : Host → String
  | domain name => name
  | ipv4 address => address.text
  | ipv6 address => s!"[{address.text}]"

/-! ## Numbers -/

/-- What a label of digits is worth. -/
inductive Numeral where
  | value (n : Nat)
  /-- The number needs more than 32 bits. -/
  | tooLarge

/-- The base of a label and the digits of its number. -/
def base : List Char → Nat × List Char
  | '0' :: 'x' :: rest | '0' :: 'X' :: rest => (16, rest)
  | '0' :: c :: rest => (8, c :: rest)
  | s => (10, s)

/-- The number that a label writes. A base without digits after it is zero. -/
def numeral? (label : List Char) : Option Numeral :=
  if label.isEmpty then none
  else
    let (base, written) := base label
    match Address.digits base written with
    | (ds, []) =>
      let n := Address.ofDigits base ds
      some (if n < UInt32.size then .value n else .tooLarge)
    | _ => none

/-- The labels of a name, without the empty one after a dot at its end. -/
def labels (name : List Char) : List (List Char) :=
  let all := Text.pieces (· == '.') name
  if all.getLast? = some [] then all.dropLast else all

/-- Whether the last label of a name is a number. -/
def endsInNumber (name : List Char) : Bool :=
  match (labels name).getLast? with
  | none => false
  | some label => (!label.isEmpty && label.all Char.isDigit) || (numeral? label).isSome

/-- The address of up to four numbers: each is an octet but the last, which fills what is left. -/
def ofNumbers? : (room : Nat) → List Nat → Option Nat
  | 0, _ | _, [] => none
  | room + 1, [last] => if last < Nat.pow 256 (room + 1) then some last else none
  | room + 1, n :: rest => do
    let low ← ofNumbers? room rest
    if n < 256 then some (n * Nat.pow 256 room + low) else none

/-- The address that a name ending in a number writes. -/
def ipv4? (name : List Char) : Option Ipv4 := do
  let numbers ← (labels name).mapM fun label =>
    match numeral? label with
    | some (.value n) => some n
    | _ => none
  return Ipv4.ofNat (← ofNumbers? 4 numbers)

/-! ## Names -/

/-- How a character counts in a name: letters are small, wide forms are the plain ones, other full
stops are dots, and what cannot be seen is left out. -/
def fold (c : Char) : List Char :=
  let n := c.toNat
  if n < 0x80 then [c.toLower]
  else if n = 0x3002 ∨ n = 0xff0e ∨ n = 0xff61 then ['.']
  else if 0xff01 ≤ n ∧ n ≤ 0xff5e then [(Char.ofNat (n - 0xfee0)).toLower]
  else if n = 0xad ∨ n = 0x200b ∨ n = 0x2060 ∨ n = 0xfeff ∨ (0xfe00 ≤ n ∧ n ≤ 0xfe0f) then []
  else [c]

/-- The ASCII characters that no name holds, blanks and controls apart. -/
def reserved : List Char := "%#/:<>?@[\\]^|".toList

/-- Whether a character may be part of a name. -/
def isNameChar (c : Char) : Bool :=
  if c.toNat < 0x80 then '!' ≤ c && c.toNat ≠ 0x7f && !reserved.contains c
  else c.toNat ≠ 0xfffd && (!Text.isUnprintable c || Text.isContinuation c)

/-- Whether a character joins the one before it, so that no label begins with it. -/
def isJoined (c : Char) : Bool := 0x80 ≤ c.toNat && Text.isUnprintable c

/-- Whether a text is a label of a name. A label of `xn--` writes one with other characters. -/
def isLabel (label : List Char) : Bool :=
  label.all isNameChar && !(label.head?.any isJoined) &&
    match label with
    | 'x' :: 'n' :: '-' :: '-' :: rest =>
      match Punycode.decode? rest with
      | some decoded => decoded.all isNameChar && decoded.any (0x80 ≤ ·.toNat)
      | none => false
    | _ => true

/-- The host that a name stands for. -/
def ofName (written : List Char) : Except UrlFault Host :=
  match String.fromUTF8? ⟨⟨Text.Percent.decode written⟩⟩ with
  | none => .error .domain
  | some decoded =>
    let name := decoded.toList.flatMap fold
    if !(Text.pieces (· == '.') name).all isLabel then .error .domain
    else if name.isEmpty then .error .emptyHost
    else if endsInNumber name then
      match ipv4? name with
      | some address => .ok (.ipv4 address)
      | none => .error .ipv4
    else .ok (.domain (String.ofList name))

/-- The address between brackets. -/
def ofBrackets (inside : List Char) : Except UrlFault Host :=
  match inside.getLast? with
  | some ']' =>
    match Ipv6.read? inside.dropLast with
    | some (address, []) => .ok (.ipv6 address)
    | _ => .error .ipv6
  | _ => .error .ipv6

/-- The host that a text writes. -/
def ofText : List Char → Except UrlFault Host
  | '[' :: inside => ofBrackets inside
  | name => ofName name

end Host

end FabricGauges
