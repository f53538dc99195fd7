import FabricGauges.Text.Base64
import FabricGauges.Text.Blank
import FabricGauges.Text.Pieces

/-!
# Sections of credential files

The files of certificates and keys are texts with labelled sections. Each begins with a line that
gives its label between dashes and ends with one that gives it again; sections with other labels
than the known ones are passed over. Here the label says what a section is, and blanks between the
base64 characters do not count, so these rules differ from those for a listener's chain.
-/

namespace FabricGauges

/-- What a section holds. -/
inductive SectionKind where
  | certificate
  | publicKey
  | key
  | rsaKey
  | curveKey
  | revocations
  | request
  | helloKeys
deriving DecidableEq, Repr

/-- The kind of a label. -/
def SectionKind.ofLabel? : String → Option SectionKind
  | "CERTIFICATE" => some certificate
  | "PUBLIC KEY" => some publicKey
  | "PRIVATE KEY" => some key
  | "RSA PRIVATE KEY" => some rsaKey
  | "EC PRIVATE KEY" => some curveKey
  | "X509 CRL" => some revocations
  | "CERTIFICATE REQUEST" => some request
  | "ECHCONFIG" => some helloKeys
  | _ => none

/-- Whether a kind is one of the private keys. -/
def SectionKind.isPrivateKey : SectionKind → Bool
  | key | rsaKey | curveKey => true
  | _ => false

/-- The content of a section. -/
structure Section where
  kind : SectionKind
  content : List UInt8
deriving DecidableEq, Repr

namespace Section

/-- How the first line of a section begins. -/
def opening : List Char := "-----BEGIN ".toList

/-- The label of a first line: it stands between the opening and exactly five dashes, which may have
spaces between and after them. -/
def label? (line : List Char) : Option (List Char) :=
  let ending := (line.reverse.takeWhile fun c => c = '-' ∨ c = ' ').reverse.dropWhile (· = ' ')
  if ending.count '-' = 5 then
    some ((line.take (line.length - ending.length)).drop opening.length)
  else none

/-- The bytes of a base64 text with blanks in it. -/
def decode? (body : List Char) : Option (List UInt8) :=
  let body := body.filter (!Text.isDocumentBlank ·)
  if (body.dropWhile (· ≠ '=')).all (· = '=') then Text.Base64.decode? body else none

/-- The sections found so far, the latest first, and the open one. -/
structure Reading where
  unclosed : Option (List Char)
  body : List Char
  found : List Section

/-- Reads one more line. -/
def Reading.step (r : Reading) (line : List Char) : Option Reading :=
  if opening.isPrefixOf line then
    (label? line).map fun label => { r with unclosed := some label }
  else match r.unclosed with
    | none => some r
    | some label =>
      if ("-----END ".toList ++ label ++ "-----".toList).isPrefixOf line then
        match SectionKind.ofLabel? (String.ofList label) with
        | none => some ⟨none, [], r.found⟩
        | some kind => (decode? r.body).map fun content => ⟨none, [], ⟨kind, content⟩ :: r.found⟩
      else some { r with body := r.body ++ line }

/-- The sections of a file. Its bytes count as characters, since all that matters is ASCII. -/
def readAll? (file : ByteArray) : Option (List Section) := do
  let text := file.toList.map fun b => Char.ofNat b.toNat
  let lines := Text.pieces (fun c => c = '\n' ∨ c = '\r') text
  let reading ← lines.foldlM Reading.step ⟨none, [], []⟩
  if reading.unclosed.isSome then none else some reading.found.reverse

end Section

end FabricGauges
