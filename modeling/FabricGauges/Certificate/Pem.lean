import FabricGauges.Text.Base64
import FabricGauges.Text.Blank

/-!
# PEM blocks

A block is the base64 text between a line that begins with `-----BEGIN ` and one that begins with
`-----END `. Lines before the block are skipped, the label is not looked at, and the rest of the
lines is returned for the next block.
-/

namespace FabricGauges

/-- Why no block could be read. -/
inductive PemFault where
  | missingHeader
  | invalidHeader
  | incomplete
  | base64
deriving DecidableEq, Repr

namespace PemFault

/-- The name of a fault in messages. -/
def name : PemFault → String
  | missingHeader => "MissingHeader"
  | invalidHeader => "InvalidHeader"
  | incomplete => "IncompletePEM"
  | base64 => "Base64DecodeError"

end PemFault

namespace Pem

/-- A line without its line feed. -/
abbrev Line := List Char

/-- The lines of a text. The last one is what follows the last line feed, and may be empty. -/
def lines : List Char → List Line
  | [] => [[]]
  | c :: rest =>
    if c = '\n' then [] :: lines rest
    else match lines rest with
      | [] => [[c]]
      | line :: more => (c :: line) :: more

/-- How a block begins. -/
def opening : Line := "-----BEGIN ".toList

/-- How the line after a block begins. -/
def closing : Line := "-----END ".toList

/-- The dashes at both ends of a header's label. -/
def dashes : Line := "-----".toList

/-- Whether some later part of a line begins with the dashes. -/
def hasDashes : Line → Bool
  | [] => false
  | c :: rest => dashes.isPrefixOf (c :: rest) || hasDashes rest

/-- Whether dashes follow the label of a header. -/
def isHeader (line : Line) : Bool := hasDashes (line.drop dashes.length)

/-- The lines from the first header on. -/
def fromHeader : List Line → List Line
  | [] => []
  | line :: rest => if opening.isPrefixOf line then line :: rest else fromHeader rest

/-- The body of a block up to its closing line, each line without the blanks at its end, and the
lines after that. -/
def body : List Line → Option (List Char × List Line)
  | [] => none
  | line :: rest =>
    if closing.isPrefixOf line then some ([], rest)
    else do
      let (text, after) ← body rest
      some (Text.dropEndWhile Text.isBlank line ++ text, after)

/-- The content of a block and the lines after it. -/
structure Block where
  content : List UInt8
  rest : List Line

/-- The first block of some lines. -/
def read (ls : List Line) : Except PemFault Block :=
  match fromHeader ls with
  | [] => .error .missingHeader
  | header :: rest =>
    if !isHeader header then .error .invalidHeader
    else match body rest with
      | none => .error .incomplete
      | some (text, after) =>
        match Text.Base64.decode? text with
        | none => .error .base64
        | some content => .ok ⟨content, after⟩

/-- The lines without the ASCII blanks at their beginning; nothing when they are all blank. -/
def trimStart : List Line → List Line
  | [] => []
  | line :: rest =>
    match line.dropWhile Text.isAsciiBlank with
    | [] => trimStart rest
    | trimmed => trimmed :: rest

theorem length_fromHeader_le (ls : List Line) : (fromHeader ls).length ≤ ls.length := by
  induction ls with
  | nil => exact Nat.le_refl _
  | cons line rest ih =>
    rw [fromHeader]
    split
    · exact Nat.le_refl _
    · exact Nat.le_succ_of_le ih

theorem length_body_lt {ls after : List Line} {text : List Char}
    (h : body ls = some (text, after)) : after.length < ls.length := by
  induction ls generalizing text with
  | nil => simp [body] at h
  | cons line rest ih =>
    rw [body] at h
    split at h
    · simp only [Option.some.injEq, Prod.mk.injEq] at h
      simp [h.2]
    · cases hb : body rest with
      | none => simp [hb] at h
      | some p =>
        obtain ⟨t, a⟩ := p
        simp only [hb, Option.bind_eq_bind, Option.bind_some, Option.some.injEq,
          Prod.mk.injEq] at h
        obtain ⟨_, rfl⟩ := h
        exact Nat.lt_succ_of_lt (ih hb)

theorem length_trimStart_le (ls : List Line) : (trimStart ls).length ≤ ls.length := by
  induction ls with
  | nil => exact Nat.le_refl _
  | cons line rest ih =>
    rw [trimStart]
    split
    · exact Nat.le_succ_of_le ih
    · simp

/-- A block takes at least one line. -/
theorem length_rest_lt {ls : List Line} {block : Block} (h : read ls = .ok block) :
    block.rest.length < ls.length := by
  unfold read at h
  have hle := length_fromHeader_le ls
  cases hf : fromHeader ls with
  | nil => simp [hf] at h
  | cons header rest =>
    simp only [hf] at h hle
    split at h
    · simp at h
    · cases hb : body rest with
      | none => simp [hb] at h
      | some p =>
        obtain ⟨text, after⟩ := p
        simp only [hb] at h
        have hlt := length_body_lt hb
        cases hd : Text.Base64.decode? text with
        | none => simp [hd] at h
        | some content =>
          simp only [hd, Except.ok.injEq] at h
          subst h
          simp only [List.length_cons] at hle
          exact Nat.lt_of_lt_of_le (Nat.lt_succ_of_lt hlt) hle

end Pem

end FabricGauges
