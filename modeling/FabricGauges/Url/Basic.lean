import FabricGauges.Url.Foreign

/-!
# URLs

A URL of the manager has the scheme `http` or `https`, a host, perhaps a port, a path and perhaps a
query. What stands before an `@` and what follows a `#` is not kept. Dot segments of the path are
resolved, and characters that may not stand in a path or a query are escaped, so that a URL is what
a request asks for.
-/

namespace FabricGauges

/-- The schemes of the manager's URL. -/
inductive Scheme where
  | http
  | https
deriving DecidableEq, Repr

namespace Scheme

/-- How a scheme is written. -/
def name : Scheme → String
  | http => "http"
  | https => "https"

/-- The port of a URL that names none. -/
def defaultPort : Scheme → Nat
  | http => 80
  | https => 443

end Scheme

/-- A URL of the manager. -/
structure Url where
  scheme : Scheme
  host : Host
  /-- The port, unless it is the one of the scheme. -/
  port : Option Nat
  /-- The escaped segments of the path; there is at least one, and it may be empty. -/
  path : List (List Char)
  /-- The escaped query. -/
  query : Option (List Char)
deriving DecidableEq, Repr

namespace Url

/-! ## The path -/

/-- Whether a character is escaped in a path. -/
def isPathEscaped (c : Char) : Bool :=
  c.toNat ≤ 0x20 || 0x7f ≤ c.toNat || "\"#<>?\x60\x7b\x7d".toList.contains c

/-- A segment with small letters and without escapes of dots. -/
def plainDots (segment : List Char) : List Char :=
  match segment.map Char.toLower with
  | ['%', '2', 'e'] => ['.']
  | ['.', '%', '2', 'e'] | ['%', '2', 'e', '.'] | ['%', '2', 'e', '%', '2', 'e'] => ['.', '.']
  | folded => folded

/-- The segments of a path after those already kept. A segment of one dot is left out, and one of
two dots takes the segment before it away; a dot segment at the end leaves an empty segment. -/
def resolve (kept : List (List Char)) : List (List Char) → List (List Char)
  | [] => kept
  | segment :: rest =>
    let ending := if rest.isEmpty then [[]] else []
    if plainDots segment = ['.', '.'] then resolve (kept.dropLast ++ ending) rest
    else if plainDots segment = ['.'] then resolve (kept ++ ending) rest
    else resolve (kept ++ [Text.Percent.encode isPathEscaped segment]) rest

/-- The segments of a path as it is written, which begins with a slash unless it is empty. -/
def readPath (s : List Char) : List (List Char) := resolve [] (Text.pieces isSlash (s.drop 1))

/-! ## The query -/

/-- Whether a character is escaped in a query. -/
def isQueryEscaped (c : Char) : Bool :=
  c.toNat ≤ 0x20 || 0x7f ≤ c.toNat || "\"#<>'".toList.contains c

/-- The query of what follows a path. -/
def readQuery : List Char → Option (List Char)
  | '?' :: s => some (Text.Percent.encode isQueryEscaped (s.takeWhile (· ≠ '#')))
  | _ => none

/-! ## The whole -/

/-- The URL of a scheme and what follows its colon. -/
def ofScheme (scheme : Scheme) (s : List Char) : Except UrlFault Url := do
  -- any number of slashes may come before the authority, or none
  let s := s.dropWhile isSlash
  let (host, port) ← readAuthority (s.takeWhile (!endsAuthority ·))
  let s := s.dropWhile (!endsAuthority ·)
  return {
    scheme, host
    -- the port of the scheme is not written
    port := port.filter (· ≠ scheme.defaultPort)
    path := readPath (s.takeWhile (!endsPath ·))
    query := readQuery (s.dropWhile (!endsPath ·)) }

/-- The URL that a text writes. -/
def ofText (text : String) : Except UrlFault Url :=
  match scheme? (visible text.toList) with
  | none => .error .relative
  | some (scheme, rest) =>
    match String.ofList scheme with
    | "http" => ofScheme .http rest
    | "https" => ofScheme .https rest
    | foreign =>
      match checkForeign foreign rest with
      | .error fault => .error fault
      | .ok () => .error .foreignScheme

/-- The URL with pairs added to its query. Without pairs, an empty query is dropped. -/
def addPairs (u : Url) (pairs : List (String × String)) : Url :=
  let query := match u.query.getD [], Text.Form.encodePairs pairs with
    | [], added => added
    | present, [] => present
    | present, added => present ++ '&' :: added
  { u with query := if query.isEmpty then none else some query }

/-- What a request for the URL asks for: its path and its query. -/
def target (u : Url) : String :=
  String.ofList <| u.path.flatMap ('/' :: ·) ++
    match u.query with
    | none => []
    | some query => '?' :: query

end Url

end FabricGauges
