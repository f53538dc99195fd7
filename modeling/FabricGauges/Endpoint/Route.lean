/-!
# Routes

The endpoint serves three things: the metrics at a configured path, its health, and whether it is
ready. The configured path is a pattern: `:name` stands for the rest of a segment and `*name`, at
the end, for all that is left. A path that is served as such is preferred to the pattern.
-/

namespace FabricGauges

/-- What the endpoint serves. -/
inductive Served where
  | metrics
  | health
  | readiness
deriving DecidableEq, Repr

/-- A part of a pattern. -/
inductive RoutePart where
  | char (c : Char)
  /-- One or more characters up to the next slash. -/
  | segment
  /-- One or more characters up to the end. -/
  | remainder
deriving DecidableEq, Repr

/-- Why a path cannot be routed. -/
inductive RouteFault where
  | relative
  /-- The path is already served. -/
  | taken
  /-- A second parameter in one segment. -/
  | crowded
  /-- A parameter without a name. -/
  | unnamed
  /-- A parameter for the rest that does not take a whole segment at the end. -/
  | misplaced
  /-- More parameters than there are names for. -/
  | tooMany
deriving DecidableEq, Repr

namespace Route

/-- Whether a character begins a parameter. -/
def isMark (c : Char) : Bool := c == ':' || c == '*'

/-- The name of a parameter, up to the next slash. -/
def name (s : List Char) : Except RouteFault (List Char) :=
  let name := s.takeWhile (· ≠ '/')
  if name.any isMark then .error .crowded
  else if name.isEmpty then .error .unnamed
  else .ok name

/-- The pattern of a path, whose parameters may stand where a segment begins. The text is read from
its start; `atSegment` says whether a slash came just before. -/
def parts (atSegment : Bool) : List Char → Except RouteFault (List RoutePart)
  | [] => .ok []
  | c :: rest =>
    if c = ':' then do
      let name ← name rest
      return .segment :: (← parts false (rest.drop name.length))
    else if c = '*' then do
      let name ← name rest
      if name.length < rest.length ∨ !atSegment then .error .misplaced
      return [.remainder]
    else do return .char c :: (← parts (c = '/') rest)
termination_by s => s.length
decreasing_by all_goals simp; try omega

/-- Whether a path is one that a pattern stands for. -/
def isMatch : List RoutePart → List Char → Bool
  | [], s => s.isEmpty
  | .char c :: ps, s =>
    match s with
    | [] => false
    | d :: rest => c == d && isMatch ps rest
  | .segment :: ps, s =>
    !(s.takeWhile (· ≠ '/')).isEmpty && isMatch ps (s.dropWhile (· ≠ '/'))
  | .remainder :: _, s => !s.isEmpty

end Route

/-- The routes of an endpoint. -/
structure Routes where
  /-- The pattern of the metrics. -/
  metrics : List RoutePart
deriving DecidableEq, Repr

namespace Routes

/-- What is served whatever the configuration. -/
def fixed : List (String × Served) := [("/health", .health), ("/ready", .readiness)]

/-- How many parameters a pattern may have that end with their segment. -/
def parameterLimit : Nat := 25

/-- The routes for metrics at a path. -/
def make (path : String) : Except RouteFault Routes := do
  if path.toList.head? ≠ some '/' then .error .relative
  let metrics ← Route.parts false path.toList
  if parameterLimit < metrics.count .segment then .error .tooMany
  if (fixed.lookup path).isSome then .error .taken
  return ⟨metrics⟩

/-- What is served at a path. -/
def served? (r : Routes) (path : String) : Option Served :=
  match fixed.lookup path with
  | some served => some served
  | none => if Route.isMatch r.metrics path.toList then some .metrics else none

end Routes

end FabricGauges
