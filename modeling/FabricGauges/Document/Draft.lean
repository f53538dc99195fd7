import FabricGauges.Document.Fault

/-!
# Drafts

A draft is a document as far as its text could be read. Where the text goes wrong the draft holds
the fault instead of a value, so whether the fault matters is decided by who reads on: a member
that nobody asks for is passed over, and `blocked` says whether that is possible. A value that did
not come from a text has a draft without faults.
-/

namespace FabricGauges

/-- How the items of a list end. -/
inductive ListEnd where
  /-- A bracket closes the list. -/
  | closed
  /-- The list is a value and has no text. -/
  | whole
  /-- The list is closed, and items that nobody reads are of no interest. -/
  | loose
  | stray
  | trailingComma
  | endAfterComma
  | endOfText
  | tooDeep
deriving DecidableEq, Repr

namespace ListEnd

/-- The fault of one who has read every item. -/
def fault? : ListEnd → Option Fault
  | closed | whole | loose => none
  | stray => some (.malformed .expectedListCommaOrEnd)
  | trailingComma => some (.malformed .trailingComma)
  | endAfterComma => some (.malformed .endOfValue)
  | endOfText => some (.malformed .endOfList)
  | tooDeep => some (.malformed .tooDeep)

/-- The fault of one who wants no more items. -/
def closingFault? : ListEnd → Option Fault
  | closed | whole | loose => none
  | trailingComma => some (.malformed .trailingComma)
  | stray | endAfterComma => some (.malformed .trailingCharacters)
  | endOfText => some (.malformed .endOfList)
  | tooDeep => some (.malformed .tooDeep)

end ListEnd

mutual

/-- A document whose numbers are of type `ν`. -/
inductive Draft (ν : Type) where
  | null
  | bool (value : Bool)
  | number (value : ν)
  | text (value : String)
  | list (items : Draft.Items ν)
  | record (members : Draft.Members ν)
  | broken (fault : Fault)

/-- The items of a list, and how they end. -/
inductive Draft.Items (ν : Type) where
  | done (how : ListEnd)
  | next (item : Draft ν) (rest : Draft.Items ν)

/-- The members of a record; they may end in a fault. -/
inductive Draft.Members (ν : Type) where
  | done (fault : Option Fault)
  | next (name : String) (value : Draft ν) (blocked : Option Fault) (rest : Draft.Members ν)

end

namespace Draft

variable {ν : Type}

namespace Items

/-- How the items end. -/
def how : Items ν → ListEnd
  | done how => how
  | next _ rest => rest.how

/-- The number of items. -/
def length : Items ν → Nat
  | done _ => 0
  | next _ rest => rest.length + 1

/-- The items, if their list ends well. -/
def toList : Items ν → List (Draft ν)
  | done _ => []
  | next item rest => item :: rest.toList

end Items

end Draft

end FabricGauges
