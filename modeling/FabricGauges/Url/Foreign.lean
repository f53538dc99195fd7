import FabricGauges.Url.Authority

/-!
# URLs of other schemes

A URL of another scheme is of no use here, but one that is broken is told apart from one that is
merely of the wrong scheme. Only the authority can be broken.
-/

namespace FabricGauges.Url

/-- The characters that no host of an unknown scheme holds. -/
def reserved : List Char := "\x00\t\n\r #/:<>?@[\\]^|".toList

/-- Checks the host of a scheme without known structure. -/
def checkOpaque : List Char → Except UrlFault Unit
  | '[' :: inside => (Host.ofBrackets inside).map fun _ => ()
  | name => if name.any reserved.contains then .error .hostCharacter else .ok ()

/-- Checks the authority of a scheme without known structure. It may be empty, but then it has no
user and no port. -/
def checkOther (s : List Char) : Except UrlFault Unit := do
  let ends (c : Char) : Bool := c == '/' || endsPath c
  let (user, rest) := splitUser (s.takeWhile (!ends ·))
  if user = some [] ∧ rest.isEmpty ∧ s.any ends then .error .emptyHost
  let (host, after) := splitPort false rest
  checkOpaque host
  if host.isEmpty ∧ !after.isEmpty then .error .emptyHost
  let _ ← readPort (after.takeWhile (· ≠ '\\'))
  if host.isEmpty ∧ user.any (! ["".toList, ":".toList].contains ·) then .error .emptyHost

/-- Checks the host of a URL of a file; a drive letter is none. -/
def checkFile : List Char → Except UrlFault Unit
  | a :: b :: s =>
    if isSlash a ∧ isSlash b then
      match s.takeWhile (!endsAuthority ·) with
      | [] => .ok ()
      | [letter, mark] =>
        if letter.isAlpha ∧ (mark = ':' ∨ mark = '|') then .ok ()
        else (Host.ofText [letter, mark]).map fun _ => ()
      | host => (Host.ofText host).map fun _ => ()
    else .ok ()
  | _ => .ok ()

/-- Checks what follows the colon of a scheme other than those of the manager. -/
def checkForeign (scheme : String) (s : List Char) : Except UrlFault Unit :=
  if scheme = "file" then checkFile s
  else if ["ws", "wss", "ftp"].contains scheme then
    (readAuthority ((s.dropWhile isSlash).takeWhile (!endsAuthority ·))).map fun _ => ()
  else match s with
    | '/' :: '/' :: s => checkOther s
    | _ => .ok ()

end FabricGauges.Url
