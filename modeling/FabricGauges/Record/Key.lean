/-!
# Keys that records are joined on

Policy objects are named by paths, whose last segment is the identifier. A pool member has no
identifier; its address and port together name it.
-/

namespace FabricGauges

/-- The characters after the last slash of a list. -/
def afterLastSlash (path : List Char) : List Char := (path.reverse.takeWhile (· ≠ '/')).reverse

/-- The last segment of a path: what follows its last slash. -/
def lastSegment (path : String) : String := String.ofList (afterLastSlash path.toList)

/-- The key of a pool member: its address and its port around a colon, if both are known. -/
def memberKey (address port : Option String) : Option String :=
  match address, port with
  | some address, some port => some (address ++ ":" ++ port)
  | _, _ => none

end FabricGauges
