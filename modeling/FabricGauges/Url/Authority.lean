import FabricGauges.Text.Pieces
import FabricGauges.Url.Host

/-!
# The parts of a URL before its path

A URL begins with a scheme and a colon. Its authority holds a user, if there is an `@`, a host, and
after the host's colon a port. Reading is lenient: blanks at both ends of a URL and tabs and line
ends inside are not seen, and a backslash counts as a slash.
-/

namespace FabricGauges.Url

/-- A text without what reading a URL does not see: controls and blanks at both ends, and tabs and
line ends anywhere. -/
def visible (s : List Char) : List Char :=
  let ignored (c : Char) : Bool := c.toNat ≤ 0x20
  let inner := ((s.dropWhile ignored).reverse.dropWhile ignored).reverse
  inner.filter fun c => c ≠ '\t' ∧ c ≠ '\n' ∧ c ≠ '\r'

/-- Whether a character may be part of a scheme, after its first letter. -/
def isSchemeChar (c : Char) : Bool := c.isAlphanum || c == '+' || c == '-' || c == '.'

/-- The scheme, with small letters, and the text after its colon. -/
def scheme? (s : List Char) : Option (List Char × List Char) :=
  match s.takeWhile isSchemeChar, s.dropWhile isSchemeChar with
  | c :: name, ':' :: rest => if c.isAlpha then some ((c :: name).map Char.toLower, rest) else none
  | _, _ => none

/-- Whether a character is a slash of either kind. -/
def isSlash (c : Char) : Bool := c == '/' || c == '\\'

/-- Whether a character ends a path. -/
def endsPath (c : Char) : Bool := c == '?' || c == '#'

/-- Whether a character ends an authority. -/
def endsAuthority (c : Char) : Bool := isSlash c || endsPath c

/-- The host and what follows it, at the first colon outside of brackets. -/
def splitPort (inBrackets : Bool) : List Char → List Char × List Char
  | [] => ([], [])
  | c :: rest =>
    if c = ':' ∧ !inBrackets then ([], c :: rest)
    else
      -- the colons of an address in brackets are its own
      let inBrackets := if c = '[' then true else if c = ']' then false else inBrackets
      let (host, after) := splitPort inBrackets rest
      (c :: host, after)

/-- What stands before the last `@`, if there is one, and what follows it. -/
def splitUser (s : List Char) : Option (List Char) × List Char :=
  let after := (s.reverse.takeWhile (· ≠ '@')).reverse
  -- nothing is cut off if no `@` stopped the walk from the end
  if after.length < s.length then (some (s.take (s.length - after.length - 1)), after)
  else (none, s)

/-- The port after a colon. There may be no colon, and no digits after it. -/
def readPort (s : List Char) : Except UrlFault (Option Nat) :=
  match s.drop 1 with
  | [] => .ok none
  | digits =>
    match Address.number? UInt16.size digits with
    | some (n, []) => .ok (some n)
    | _ => .error .port

/-- The host and the port of an authority, which has to have a host. -/
def readAuthority (s : List Char) : Except UrlFault (Host × Option Nat) := do
  let (written, after) := splitPort false (splitUser s).2
  if written.isEmpty then .error .emptyHost
  let host ← Host.ofText written
  return (host, ← readPort after)

end FabricGauges.Url
