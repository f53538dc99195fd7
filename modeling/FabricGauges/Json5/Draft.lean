import FabricGauges.Json5.Token

/-!
# The draft of a configuration text

The text is read as a whole before anything in it is looked at: lists and records may have a comma
after their last part, and a name may stand for a text as the name of a member. Faults inside of
literals are left for whoever reads them.
-/

namespace FabricGauges.Json5

open Draft (Items Members)

/-- A list or a record that is being read, its parts so far, the latest first. -/
inductive Open where
  | list (latest : List (Draft Literal))
  | record (latest : List (Except BadLiteral String × Draft Literal))
  /-- A member's name has been read and its value is to come. -/
  | member (latest : List (Except BadLiteral String × Draft Literal))
    (name : Except BadLiteral String)

/-- What may come next. -/
inductive Expecting where
  | value
  | valueOrEnd
  | nameOrEnd
  | colon
  | commaOrEnd
  | nothing
deriving DecidableEq

/-- The reader: what may come next, what is open, the innermost first, and the document in the
end. -/
structure Builder where
  expecting : Expecting
  unclosed : List Open
  result : Option (Draft Literal)

mutual

/-- The first fault of one who reads a value without interest. -/
def firstFault : Draft Literal → Option Fault
  | .number l =>
    match l.found with
    | .ok _ => none
    | .error fault => some fault
  | .broken fault => some fault
  | .list items => firstFaultItems items
  | .record members => firstFaultMembers members
  | .null | .bool _ | .text _ => none

/-- The first fault of the items. -/
def firstFaultItems : Items Literal → Option Fault
  | .done _ => none
  | .next item rest => (firstFault item).or (firstFaultItems rest)

/-- The first fault of the members. -/
def firstFaultMembers : Members Literal → Option Fault
  | .done fault => fault
  | .next _ value _ rest => (firstFault value).or (firstFaultMembers rest)

end

/-- The draft of a text. -/
def draftText (components : List Component) : Draft Literal :=
  match text components with
  | .ok s => .text (String.ofList s)
  | .error fault => .broken (.literal fault)

/-- The items of a list, given the latest first. -/
def itemsOf (latest : List (Draft Literal)) : Items Literal :=
  latest.foldl (fun rest item => .next item rest) (.done .loose)

/-- The members of a record, given the latest first. -/
def membersOf (latest : List (Except BadLiteral String × Draft Literal)) : Members Literal :=
  latest.foldl (fun rest (name, value) =>
    match name with
    | .ok name => .next name value (firstFault value) rest
    | .error fault => .done (some (.literal fault))) (.done none)

namespace Builder

/-- Before the document. -/
def start : Builder := ⟨.value, [], none⟩

/-- A value has been read. -/
def complete (d : Draft Literal) : List Open → Option Builder
  | [] => some ⟨.nothing, [], some d⟩
  | .list latest :: rest => some ⟨.commaOrEnd, .list (d :: latest) :: rest, none⟩
  | .member latest name :: rest => some ⟨.commaOrEnd, .record ((name, d) :: latest) :: rest, none⟩
  | .record _ :: _ => none

/-- The innermost list or record is closed. -/
def close (list : Bool) : List Open → Option Builder
  | .list latest :: rest => if list then complete (.list (itemsOf latest)) rest else none
  | .record latest :: rest => if list then none else complete (.record (membersOf latest)) rest
  | _ => none

/-- The value that a name stands for. -/
def wordValue? : String → Option (Draft Literal)
  | "null" => some .null
  | "true" => some (.bool true)
  | "false" => some (.bool false)
  | "Infinity" => some (.number ⟨.none, .infinity⟩)
  | "NaN" => some (.number ⟨.none, .nan⟩)
  | _ => none

/-- A token where a value has to stand. -/
def value (b : Builder) : Token → Option Builder
  | .openList => some ⟨.valueOrEnd, .list [] :: b.unclosed, none⟩
  | .openRecord => some ⟨.nameOrEnd, .record [] :: b.unclosed, none⟩
  | .number l => complete (.number l) b.unclosed
  | .text components => complete (draftText components) b.unclosed
  | .word _ plain => do complete (← wordValue? (← plain)) b.unclosed
  | _ => none

/-- A token where the name of a member has to stand. -/
def name (b : Builder) (components : List Component) : Option Builder :=
  match b.unclosed with
  | .record latest :: rest =>
    some ⟨.colon, .member latest ((text components).map String.ofList) :: rest, none⟩
  | _ => none

/-- One token; a token that fits nowhere leaves nothing. -/
def step (b : Builder) (t : Token) : Option Builder :=
  match b.expecting, t with
  | .valueOrEnd, .closeList => close true b.unclosed
  | .value, t | .valueOrEnd, t => b.value t
  | .nameOrEnd, .closeRecord => close false b.unclosed
  | .nameOrEnd, .text components | .nameOrEnd, .word components _ => b.name components
  | .colon, .colon => some ⟨.value, b.unclosed, none⟩
  | .commaOrEnd, .closeList => close true b.unclosed
  | .commaOrEnd, .closeRecord => close false b.unclosed
  | .commaOrEnd, .comma =>
    match b.unclosed with
    | .list _ :: _ => some ⟨.valueOrEnd, b.unclosed, none⟩
    | .record _ :: _ => some ⟨.nameOrEnd, b.unclosed, none⟩
    | _ => none
  | _, _ => none

end Builder

/-- The draft of a text; a text that is not well formed has none. -/
def draft? (s : String) : Option (Draft Literal) := do
  let b ← (← tokens s).foldlM Builder.step Builder.start
  b.result

end FabricGauges.Json5
