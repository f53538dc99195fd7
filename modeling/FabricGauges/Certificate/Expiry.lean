import FabricGauges.Certificate.Calendar
import FabricGauges.Certificate.Der

/-!
# The expiry of a certificate

A certificate is a sequence of its signed part, an algorithm and a signature. The signed part holds
the two times between which the certificate is valid, and the second is what is asked for; the rest
is only checked for its structure.
-/

namespace FabricGauges.Certificate

open Der

/-- The bytes after an algorithm: an identifier and at most one parameter that is an element. -/
def algorithm? (bytes : List UInt8) : Option (List UInt8) := do
  let (content, rest) ← sequence? bytes
  let (_, parameters) ← primitive? 6 content
  if parameters.isEmpty then some rest
  else do
    let _ ← element? parameters
    some rest

/-- The digits of a text in pairs, as numbers below a hundred. -/
def pairs? : List UInt8 → Option (List Nat)
  | [] => some []
  | a :: b :: rest => do
    if a.toNat < 48 ∨ 57 < a.toNat ∨ b.toNat < 48 ∨ 57 < b.toNat then none
    else
      let more ← pairs? rest
      some (((a.toNat - 48) * 10 + (b.toNat - 48)) :: more)
  | _ => none

/-- The time of a text that ends in `Z`; years of two digits lie between 1950 and 2049. -/
def calendar? (tag : Nat) (content : List UInt8) : Option Calendar := do
  if content.getLast? ≠ some 90 then none
  else
    let numbers ← pairs? content.dropLast
    let time ← match tag, numbers with
      -- the tags of a time with two digits for the year, and with four
      | 23, [year, month, day, hour, minute, second] =>
        some ⟨if 50 ≤ year then 1900 + year else 2000 + year, month, day, hour, minute, second⟩
      | 24, [century, year, month, day, hour, minute, second] =>
        some ⟨century * 100 + year, month, day, hour, minute, second⟩
      | _, _ => none
    if time.isValid then some time else none

/-- A time and the bytes after it. -/
def time? (bytes : List UInt8) : Option (Calendar × List UInt8) := do
  let (e, rest) ← element? bytes
  if e.constructed then none
  else
    let time ← calendar? e.tag e.content
    some (time, rest)

/-- Whether the content of an integer is a version: a natural number of 32 bits without needless
leading bytes. -/
def isVersion : List UInt8 → Bool
  | [] => false
  | [b] => b.toNat < 128
  | b :: c :: rest =>
    b.toNat < 128 && !(b.toNat == 0 && c.toNat < 128) && bigEndian (b :: c :: rest) < UInt32.size

/-- The bytes after the version, which may be missing. -/
def version? (bytes : List UInt8) : Option (List UInt8) := do
  let (e, rest) ← element? bytes
  if e.tagClass = 2 ∧ e.tag = 0 then
    let (content, _) ← primitive? 2 e.content
    if isVersion content then some rest else none
  else some bytes

/-- The bytes after a unique identifier with a context tag, which may be missing. -/
def uniqueId? (tag : Nat) (bytes : List UInt8) : Option (List UInt8) :=
  match element? bytes with
  | none => if bytes.isEmpty then some bytes else none
  | some (e, rest) =>
    if e.tagClass = 2 ∧ e.tag = tag then
      if !e.constructed ∧ isBitString e.content then some rest else none
    else some bytes

/-- Whether bytes are an extension: an identifier, a flag that may be missing, and a value. -/
def isExtension (content : List UInt8) : Bool :=
  match primitive? 6 content with
  | none => false
  | some (_, rest) =>
    let rest := match primitive? 1 rest with
      | some ([_], after) => after
      | _ => rest
    (primitive? 4 rest).isSome

/-- Whether bytes are extensions and nothing else; each takes at least two bytes. -/
def areExtensions : (fuel : Nat) → List UInt8 → Bool
  | _, [] => true
  | 0, _ => false
  | fuel + 1, bytes =>
    match sequence? bytes with
    | none => false
    | some (content, rest) => isExtension content && areExtensions fuel rest

/-- Whether bytes are the extensions at the end of the signed part, which may be missing. -/
def isExtensionPart (bytes : List UInt8) : Bool :=
  match bytes with
  | [] => true
  | _ =>
    match element? bytes with
    | none => false
    | some (e, rest) =>
      if e.tag ≠ 3 then false
      else
        match sequence? (e.content ++ rest) with
        | some (content, []) => areExtensions content.length content
        | _ => false

/-- The bytes after a name, whose parts are not looked at. -/
def name? (bytes : List UInt8) : Option (List UInt8) := (sequence? bytes).map (·.2)

/-- The time at which a certificate expires, in seconds since the beginning of 1970. -/
def notAfter? (bytes : List UInt8) : Option Int := do
  let (certificate, _) ← sequence? bytes
  let (signed, rest) ← sequence? certificate
  -- the members of the signed part, in their order
  let afterVersion ← version? signed
  let (serial, afterSerial) ← element? afterVersion
  if serial.tag ≠ 2 then none
  let afterAlgorithm ← algorithm? afterSerial
  let afterIssuer ← name? afterAlgorithm
  let (validity, afterValidity) ← sequence? afterIssuer
  let (_, second) ← time? validity
  let (notAfter, _) ← time? second
  let afterSubject ← name? afterValidity
  let (key, afterKey) ← sequence? afterSubject
  let keyBits ← algorithm? key
  let _ ← bitString? keyBits
  let afterIssuerId ← uniqueId? 1 afterKey
  let extensions ← uniqueId? 2 afterIssuerId
  if !isExtensionPart extensions then none
  -- behind the signed part
  let signature ← algorithm? rest
  let _ ← bitString? signature
  some notAfter.seconds

end FabricGauges.Certificate
