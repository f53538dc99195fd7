import FabricGauges.Certificate.Expiry
import FabricGauges.Certificate.Pem

/-!
# Chains of certificates

A listener presents its certificates as one text of PEM blocks. `Chain.decode` reads them in order
and stops at the first block that is not a certificate; what was read before it stays known.
-/

namespace FabricGauges

/-- When one certificate of a chain expires. -/
structure Expiry where
  /-- The place in the chain, from zero. -/
  index : Nat
  /-- Seconds since the beginning of 1970. -/
  notAfter : Int
deriving DecidableEq, Repr

/-- Why a block is not a certificate. -/
inductive CertificateFault where
  | pem (fault : PemFault)
  /-- The content of the block is no certificate. What the X.509 reader says about it is not
  kept. -/
  | notCertificate
deriving DecidableEq, Repr

/-- A chain that could not be read to its end. -/
structure BrokenChain where
  /-- The place of the certificate that could not be read. -/
  index : Nat
  fault : CertificateFault
  /-- The certificates before it. -/
  parsed : List Expiry
deriving DecidableEq, Repr

/-- The message of a broken chain, without what the X.509 reader adds behind its own name. -/
def BrokenChain.message (b : BrokenChain) : String :=
  s!"Failed to decode certificate {b.index}: " ++
    match b.fault with
    | .pem fault => "invalid PEM: Parsing Error: " ++ fault.name
    | .notCertificate => "invalid X.509"

namespace Chain

/-- The certificates of some lines, after those already parsed. -/
def decodeLines (ls : List Pem.Line) (parsed : List Expiry) : Except BrokenChain (List Expiry) :=
  match Pem.trimStart ls with
  | [] => .ok parsed
  | _ =>
    match h : Pem.read (Pem.trimStart ls) with
    | .error fault => .error ⟨parsed.length, .pem fault, parsed⟩
    | .ok block =>
      match Certificate.notAfter? block.content with
      | none => .error ⟨parsed.length, .notCertificate, parsed⟩
      | some notAfter =>
        have : block.rest.length < ls.length :=
          Nat.lt_of_lt_of_le (Pem.length_rest_lt h) (Pem.length_trimStart_le ls)
        decodeLines block.rest (parsed ++ [⟨parsed.length, notAfter⟩])
termination_by ls.length

/-- The certificates of a chain, in order. A blank text holds none. -/
def decode (pem : String) : Except BrokenChain (List Expiry) :=
  decodeLines (Pem.lines pem.toList) []

end Chain

end FabricGauges
