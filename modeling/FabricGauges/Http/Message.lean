import FabricGauges.Client.Exchange
import FabricGauges.Endpoint.Response

/-!
# Messages

The requests and responses of HTTP/1.1 as bytes: what is sent to the manager, what its answer comes
to, and what the endpoint reads and writes. A body ends where its length says, where its last chunk
ends, or where the connection ends.
-/

namespace FabricGauges.Http

/-! ## Heads -/

/-- The start line and the header fields of a message. -/
structure Head where
  /-- The words of the start line. -/
  start : List String
  /-- The fields, with their names in small letters. -/
  fields : List (String × String)

/-- The bytes before the first empty line and those after it. -/
def splitHead : List UInt8 → Option (List UInt8 × List UInt8)
  | [] => none
  | 13 :: 10 :: 13 :: 10 :: rest => some ([], rest)
  | b :: rest => (splitHead rest).map fun (head, body) => (b :: head, body)

/-- The ASCII text of some bytes. -/
def ascii (bytes : List UInt8) : List Char := bytes.map fun b => Char.ofNat b.toNat

/-- A text without blanks at either end. -/
def trimmed (s : List Char) : List Char :=
  Text.dropEndWhile Text.isAsciiBlank (s.dropWhile Text.isAsciiBlank)

/-- The name and the value of a field. -/
def field (line : List Char) : String × String :=
  (String.ofList ((trimmed (line.takeWhile (· ≠ ':'))).map Char.toLower),
    String.ofList (trimmed ((line.dropWhile (· ≠ ':')).drop 1)))

/-- The head that some bytes write. -/
def Head.ofBytes (bytes : List UInt8) : Head :=
  match Text.pieces (· = '\n') (ascii bytes) with
  | [] => ⟨[], []⟩
  | start :: lines =>
    ⟨((Text.pieces (· = ' ') (trimmed start)).filter (!·.isEmpty)).map String.ofList,
      lines.map field⟩

/-- The value of a field. -/
def Head.value? (h : Head) (name : String) : Option String := h.fields.lookup name

/-! ## Bodies -/

/-- The bytes of a line and those after its end. -/
def line? : List UInt8 → Option (List UInt8 × List UInt8)
  | [] => none
  | 13 :: 10 :: rest => some ([], rest)
  | b :: rest => (line? rest).map fun (line, after) => (b :: line, after)

theorem length_lt_of_line? {bytes line after : List UInt8} (h : line? bytes = some (line, after)) :
    after.length < bytes.length := by
  fun_induction line? bytes generalizing line after with
  | case1 => simp at h
  | case2 rest =>
    simp only [Option.some.injEq, Prod.mk.injEq] at h
    obtain ⟨_, rfl⟩ := h
    simp only [List.length_cons]
    omega
  | case3 b rest _ ih =>
    cases hr : line? rest with
    | none => simp [hr] at h
    | some p =>
      obtain ⟨l, a⟩ := p
      simp only [hr, Option.map_some, Option.some.injEq, Prod.mk.injEq] at h
      obtain ⟨_, rfl⟩ := h
      exact Nat.lt_succ_of_lt (ih hr)

/-- The length of a chunk, before any extension of its line. -/
def chunkLength? (line : List UInt8) : Option Nat :=
  match Address.digits 16 (trimmed ((ascii line).takeWhile (· ≠ ';'))) with
  | ([], _) => none
  | (ds, []) => some (Address.ofDigits 16 ds)
  | _ => none

/-- The bytes of the chunks of a body, if it is complete. -/
def chunks? (bytes : List UInt8) : Option (List UInt8) :=
  match h : line? bytes with
  | none => none
  | some (line, after) =>
    have := length_lt_of_line? h
    match chunkLength? line with
    | none => none
    | some 0 => some []
    | some n =>
      if after.length < n + 2 then none
      else (chunks? (after.drop (n + 2))).map (after.take n ++ ·)
termination_by bytes.length
decreasing_by
  simp only [List.length_drop]
  omega

/-- The length that a head announces. -/
def Head.length? (h : Head) : Option Nat := (h.value? "content-length").bind String.toNat?

/-- The body of a message whose connection has ended, if it is complete. -/
def body? (h : Head) (bytes : List UInt8) : Option (List UInt8) :=
  if h.value? "transfer-encoding" = some "chunked" then chunks? bytes
  else match h.length? with
    | some n => if bytes.length < n then none else some (bytes.take n)
    | none => some bytes

/-! ## The manager -/

/-- The request for a URL. -/
def request (url : Url) (authorization : Option String) : String :=
  let port := match url.port with
    | some p => s!":{p}"
    | none => ""
  let login := match authorization with
    | some value => s!"authorization: {value}\r\n"
    | none => ""
  s!"GET {url.target} HTTP/1.1\r\nhost: {url.host.text}{port}\r\naccept: */*\r\n" ++
    s!"{login}connection: close\r\n\r\n"

/-- What an answer of the manager comes to. -/
def reaction (answer : List UInt8) : Reaction :=
  match splitHead answer with
  | none => .unsent
  | some (head, rest) =>
    let head := Head.ofBytes head
    match head.start with
    | _ :: status :: _ =>
      match status.toNat? with
      | some status => .answered status (body? head rest)
      | none => .unsent
    | _ => .unsent

/-! ## The endpoint -/

/-- Whether a request line can have a character at all. -/
def isVisible (c : Char) : Bool := ' ' < c && c != '\x7f'

/-- Whether a path can have a character as it is. A query or a fragment ends the path. -/
def isPathChar (c : Char) : Bool := isVisible c && !(['<', '>', '\x60', '?', '#'].contains c)

/-- Whether a query can have a character as it is. A fragment ends the query. -/
def isQueryChar (c : Char) : Bool := isVisible c && !(['"', '<', '>', '#'].contains c)

/-- How many bytes a target may have. -/
def targetLimit : Nat := 65534

/-- Whether a request can have a target: an absolute path, perhaps with a query and a fragment. -/
def isTarget (target : List Char) : Bool :=
  target.head? == some '/' && (Text.utf8 target).length ≤ targetLimit &&
    (target.takeWhile fun c => c ≠ '?' ∧ c ≠ '#').all isPathChar &&
    match target.dropWhile fun c => c ≠ '?' ∧ c ≠ '#' with
    | '?' :: query =>
      (query.takeWhile (· ≠ '#')).all isQueryChar && (query.dropWhile (· ≠ '#')).all isVisible
    | fragment => fragment.all isVisible

/-- The method and the target of a request that has been read as far as the end of its head. -/
def asked? (bytes : List UInt8) : Option (String × String) := do
  let (head, _) ← splitHead bytes
  let line ← Text.ofUtf8? (head.takeWhile (· ≠ 13))
  match Text.pieces (· = ' ') line.toList with
  | [method, target, _] =>
    if isTarget target then some (String.ofList method, String.ofList target) else none
  | _ => none

/-- The answer to the bytes of a request. -/
def answer (r : Routes) (space : String) (state : Scraper.State) (request : List UInt8) : Response :=
  match asked? request with
  | some (method, target) => r.respond space state method target
  | none => ⟨400, [], ""⟩

/-- The words for a status. -/
def reason : Nat → String
  | 200 => "OK"
  | 400 => "Bad Request"
  | 404 => "Not Found"
  | 405 => "Method Not Allowed"
  | 503 => "Service Unavailable"
  | _ => "Unknown"

/-- The text of a response. -/
def response (r : Response) : String :=
  let fields := r.headers ++
    [("content-length", toString r.body.utf8ByteSize), ("connection", "close")]
  s!"HTTP/1.1 {r.status} {reason r.status}\r\n" ++
    String.join (fields.map fun (name, value) => s!"{name}: {value}\r\n") ++ "\r\n" ++ r.body

end FabricGauges.Http
