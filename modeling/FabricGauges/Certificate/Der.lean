/-!
# Encoded elements

An element of a certificate is a tag, a length and that many bytes of content. Lengths are definite;
a tag number above thirty takes bytes of its own.
-/

namespace FabricGauges.Der

/-- An element. -/
structure Element where
  /-- The class of the tag: universal, application, context or private. -/
  tagClass : Nat
  constructed : Bool
  tag : Nat
  content : List UInt8

/-- A natural number from bytes in order of significance. -/
def bigEndian (bytes : List UInt8) : Nat := bytes.foldl (fun n b => n * 256 + b.toNat) 0

/-- The rest of a tag number that is written in groups of seven bits. -/
def longTag : Nat → List UInt8 → Option (Nat × List UInt8)
  | _, [] => none
  | n, b :: rest =>
    let n := n * 128 + b.toNat % 128
    if b.toNat < 128 then some (n, rest) else longTag n rest

/-- A definite length. -/
def length? : List UInt8 → Option (Nat × List UInt8)
  | [] => none
  | b :: rest =>
    if b.toNat < 128 then some (b.toNat, rest)
    else
      let count := b.toNat - 128
      if count = 0 ∨ count = 127 ∨ rest.length < count then none
      else
        let n := bigEndian (rest.take count)
        if n < UInt64.size then some (n, rest.drop count) else none

/-- The first element of some bytes, and the bytes after it. -/
def element? : List UInt8 → Option (Element × List UInt8)
  | [] => none
  | b :: rest => do
    let low := b.toNat % 32
    let (tag, rest) ← if low = 31 then longTag 0 rest else some (low, rest)
    let (length, rest) ← length? rest
    if rest.length < length then none
    else some (⟨b.toNat / 64, b.toNat / 32 % 2 = 1, tag, rest.take length⟩, rest.drop length)

/-- The content of a sequence, and the bytes after it. -/
def sequence? (bytes : List UInt8) : Option (List UInt8 × List UInt8) := do
  let (e, rest) ← element? bytes
  if e.tag = 16 ∧ e.constructed then some (e.content, rest) else none

/-- The content of a primitive element with a tag, and the bytes after it. -/
def primitive? (tag : Nat) (bytes : List UInt8) : Option (List UInt8 × List UInt8) := do
  let (e, rest) ← element? bytes
  if e.tag = tag ∧ !e.constructed then some (e.content, rest) else none

/-- The number of zero bits at the end of a byte. -/
def trailingZeros (b : UInt8) : Nat :=
  if b.toNat = 0 then 8
  else if b.toNat % 128 = 0 then 7
  else if b.toNat % 64 = 0 then 6
  else if b.toNat % 32 = 0 then 5
  else if b.toNat % 16 = 0 then 4
  else if b.toNat % 8 = 0 then 3
  else if b.toNat % 4 = 0 then 2
  else if b.toNat % 2 = 0 then 1
  else 0

/-- Whether bytes are the content of a bit string: a count of unused bits, and bytes whose last
unused bits are zero. -/
def isBitString : List UInt8 → Bool
  | [] => false
  | [unused] => unused.toNat = 0
  | unused :: bytes => unused.toNat ≤ trailingZeros (bytes.getLast?.getD 0)

/-- The bytes after a bit string. -/
def bitString? (bytes : List UInt8) : Option (List UInt8) := do
  let (content, rest) ← primitive? 3 bytes
  if isBitString content then some rest else none

end FabricGauges.Der
