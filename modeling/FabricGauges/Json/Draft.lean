import FabricGauges.Document.Draft
import FabricGauges.Json.Token

/-!
# The draft of a JSON text or value

`Json.draft` reads a text into a draft. Lists and records may be nested 127 deep; a deeper one can
still be passed over. Passing over is an automaton on tokens with a stack of the lists and records
that are open. `Json.asDraft` is the draft of a value, which has no faults.
-/

namespace FabricGauges.Json

open Draft (Items Members)

/-! ## Passing over a value -/

/-- What encloses a value. -/
inductive Frame where
  | list
  | record
deriving DecidableEq

namespace Frame

/-- The fault of a text that ends inside. -/
def truncated : Frame → Malformed
  | list => .endOfList
  | record => .endOfRecord

/-- The fault of a token that neither continues nor closes. -/
def expectedCommaOrEnd : Frame → Malformed
  | list => .expectedListCommaOrEnd
  | record => .expectedRecordCommaOrEnd

/-- Whether a token closes the frame. -/
def isClosedBy : Frame → Token → Bool
  | list, .closeList => true
  | record, .closeRecord => true
  | _, _ => false

end Frame

/-- What one who passes over a value expects next. -/
inductive Expecting where
  | value
  | firstOrEnd
  | commaOrEnd
  | name
  | colon
deriving DecidableEq

/-- Passing over: what is expected next, inside of what, the innermost first. -/
structure Passing where
  expecting : Expecting
  unclosed : List Frame

namespace Passing

/-- Before a value. -/
def start : Passing := ⟨.value, []⟩

/-- After a value: nothing is left to do once no frame is open. -/
def afterValue : List Frame → Option Passing
  | [] => none
  | frames => some ⟨.commaOrEnd, frames⟩

/-- A token where a value has to stand. -/
def stepValue (frames : List Frame) : Token → Except Malformed (Option Passing)
  | .openList => .ok (some ⟨.firstOrEnd, .list :: frames⟩)
  | .openRecord => .ok (some ⟨.firstOrEnd, .record :: frames⟩)
  | .leaf _ blocked | .text _ blocked =>
    match blocked with
    | some fault => .error fault
    | none => .ok (afterValue frames)
  | _ => .error .expectedValue

/-- A token where a member's name has to stand. -/
def stepName (frames : List Frame) : Token → Except Malformed (Option Passing)
  | .text _ none => .ok (some ⟨.colon, frames⟩)
  | .text _ (some fault) => .error fault
  | _ => .error .keyNotText

/-- One token; nothing is left once the value has been passed over. -/
def step (p : Passing) (t : Token) : Except Malformed (Option Passing) :=
  match p.expecting, p.unclosed with
  | .value, frames => stepValue frames t
  | .name, frames => stepName frames t
  | .colon, frames =>
    match t with
    | .colon => .ok (some ⟨.value, frames⟩)
    | _ => .error .expectedColon
  | _, [] => .error .expectedValue
  | .firstOrEnd, frame :: frames =>
    if frame.isClosedBy t then .ok (afterValue frames)
    else match frame with
      | .list => stepValue (frame :: frames) t
      | .record => stepName (frame :: frames) t
  | .commaOrEnd, frame :: frames =>
    if frame.isClosedBy t then .ok (afterValue frames)
    else match t, frame with
      | .comma, .list => .ok (some ⟨.value, frame :: frames⟩)
      | .comma, .record => .ok (some ⟨.name, frame :: frames⟩)
      | _, _ => .error frame.expectedCommaOrEnd

/-- The fault of a text that ends here. -/
def truncated (p : Passing) : Malformed :=
  match p.expecting, p.unclosed with
  | .value, _ | _, [] => .endOfValue
  | _, frame :: _ => frame.truncated

/-- The tokens after the value. -/
def run (p : Passing) : List Token → Except Malformed (List Token)
  | [] => .error p.truncated
  | t :: rest =>
    match p.step t with
    | .error fault => .error fault
    | .ok none => .ok rest
    | .ok (some p) => p.run rest

/-- Passing over takes at least one token. -/
theorem length_run_lt {p : Passing} {ts rest : List Token} (h : p.run ts = .ok rest) :
    rest.length < ts.length := by
  induction ts generalizing p with
  | nil => simp [run] at h
  | cons t ts ih =>
    rw [run] at h
    split at h
    · simp at h
    · simp only [Except.ok.injEq] at h
      simp [h]
    · exact Nat.lt_succ_of_lt (ih h)

end Passing

/-! ## Reading -/

/-- The fault of a member whose value cannot be passed over. -/
def blocked : Except Malformed (List Token) → Option Fault
  | .ok _ => none
  | .error fault => some (.malformed fault)

mutual

/-- The draft of the value that begins the tokens, in which lists and records may be nested as deep
as `depth` says. -/
def draftValue (depth : Nat) (ts : List Token) : Draft Number :=
  match ts with
  | [] => .broken (.malformed .endOfValue)
  | .openList :: rest =>
    match depth with
    | 0 => .list (.done .tooDeep)
    | depth + 1 => .list (draftItems depth rest)
  | .openRecord :: rest =>
    match depth with
    | 0 => .record (.done (some (.malformed .tooDeep)))
    | depth + 1 => .record (draftMembers depth rest)
  | .text (.ok s) _ :: _ => .text s
  | .leaf (.ok .null) _ :: _ => .null
  | .leaf (.ok (.bool b)) _ :: _ => .bool b
  | .leaf (.ok (.number n)) _ :: _ => .number n
  | .text (.error fault) _ :: _ | .leaf (.error fault) _ :: _ => .broken (.malformed fault)
  | _ => .broken (.malformed .expectedValue)
termination_by (ts.length, 0)

/-- The items of a list whose bracket has just been opened. -/
def draftItems (depth : Nat) (ts : List Token) : Items Number :=
  match ts with
  | [] => .done .endOfText
  | .closeList :: _ => .done .closed
  | ts => draftItem depth ts
termination_by (ts.length, 2)

/-- An item and those after it. -/
def draftItem (depth : Nat) (ts : List Token) : Items Number :=
  .next (draftValue depth ts) <|
    match h : Passing.start.run ts with
    | .error _ => .done .stray
    | .ok [] => .done .endOfText
    | .ok (.closeList :: _) => .done .closed
    | .ok [.comma] => .done .endAfterComma
    | .ok (.comma :: .closeList :: _) => .done .trailingComma
    | .ok (.comma :: rest) =>
      have : rest.length < ts.length := Nat.lt_of_succ_lt (Passing.length_run_lt h)
      draftItem depth rest
    | .ok _ => .done .stray
termination_by (ts.length, 1)

/-- The members of a record whose bracket has just been opened. -/
def draftMembers (depth : Nat) (ts : List Token) : Members Number :=
  match ts with
  | [] => .done (some (.malformed .endOfRecord))
  | .closeRecord :: _ => .done none
  | ts => draftMember depth ts
termination_by (ts.length, 2)

/-- A member and those after it. -/
def draftMember (depth : Nat) (ts : List Token) : Members Number :=
  match ts with
  | .text (.ok name) _ :: .colon :: rest =>
    .next name (draftValue depth rest) (blocked (Passing.start.run rest)) <|
      match h : Passing.start.run rest with
      | .error _ => .done none
      | .ok [] => .done (some (.malformed .endOfRecord))
      | .ok (.closeRecord :: _) => .done none
      | .ok [.comma] => .done (some (.malformed .endOfValue))
      | .ok (.comma :: .closeRecord :: _) => .done (some (.malformed .trailingComma))
      | .ok (.comma :: after) =>
        have : after.length < rest.length := Nat.lt_of_succ_lt (Passing.length_run_lt h)
        draftMember depth after
      | .ok _ => .done (some (.malformed .expectedRecordCommaOrEnd))
  | .text (.ok name) _ :: rest =>
    let fault := .malformed (if rest.isEmpty then .endOfRecord else .expectedColon)
    .next name (.broken fault) (some fault) (.done none)
  | .text (.error fault) _ :: _ => .done (some (.malformed fault))
  | _ => .done (some (.malformed .keyNotText))
termination_by (ts.length, 1)

end

/-- How deep lists and records may be nested in a text. -/
def depthLimit : Nat := 127

/-- What a text holds: the draft of its document, and the fault of what stands around it. -/
structure Reading where
  draft : Draft Number
  /-- The fault of a text that goes on after the document. -/
  surplus : Option Fault

/-- Reads the tokens of a text. -/
def readTokens (ts : List Token) : Reading :=
  ⟨draftValue depthLimit ts,
    match Passing.start.run ts with
    | .ok (_ :: _) => some (.malformed .trailingCharacters)
    | _ => none⟩

/-- Reads a text. -/
def read (s : String) : Reading := readTokens (tokens s)

/-- Reads the bytes of a text. -/
def readBytes (bytes : List UInt8) : Reading := readTokens (tokensOfBytes bytes)

/-! ## Values -/

mutual

/-- The draft of a value. -/
def asDraft : Json → Draft Number
  | .null => .null
  | .bool b => .bool b
  | .number n => .number n
  | .text s => .text s
  | .list items => .list (asItems items)
  | .record members => .record (asMembers members)

/-- The drafts of the items of a list. -/
def asItems : List Json → Items Number
  | [] => .done .whole
  | item :: rest => .next item.asDraft (asItems rest)

/-- The drafts of the members of a record. -/
def asMembers : List (String × Json) → Members Number
  | [] => .done none
  | (name, value) :: rest => .next name value.asDraft none (asMembers rest)

end

end FabricGauges.Json
