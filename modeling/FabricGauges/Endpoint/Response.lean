import FabricGauges.Endpoint.Route
import FabricGauges.Gauge.Exposition
import FabricGauges.Scraper.Basic

/-!
# Responses

What the endpoint answers. Whatever is served answers GET and, without its body, HEAD; other methods
are not allowed, and other paths are not found. Every answer may be read by any origin, and OPTIONS
says so for all paths.
-/

namespace FabricGauges

/-- A response of the endpoint. -/
structure Response where
  status : Nat
  headers : List (String × String)
  body : String
deriving DecidableEq, Repr

namespace Response

/-- A response with a text. -/
def text (status : Nat) (type body : String) : Response := ⟨status, [("content-type", type)], body⟩

/-- How the type of a plain text is written. -/
def plainText : String := "text/plain; charset=utf-8"

/-- The methods that are served, for a client that used another one. -/
def allow : String × String := ("allow", "GET,HEAD")

/-- A response that any origin may read. -/
def shared (r : Response) : Response :=
  { r with
    headers := r.headers ++
      [("access-control-allow-origin", "*"), ("access-control-expose-headers", "*")] }

/-- A response without its body. -/
def bodiless (r : Response) : Response := { r with body := "" }

end Response

/-- The path that a request asks for, without its query. -/
def requestPath (target : String) : String :=
  String.ofList (target.toList.takeWhile fun c => c ≠ '?' ∧ c ≠ '#')

namespace Served

/-- What a GET is answered, when the metrics have a namespace. -/
def content (space : String) (state : Scraper.State) : Served → Response
  | metrics => .text 200 Exposition.contentType (state.board.render space)
  | health => .text 200 Response.plainText "healthy\n"
  | readiness =>
    if 0 < state.stats.successes then .text 200 Response.plainText "ready\n"
    else .text 503 Response.plainText "not ready - no successful scrape yet\n"

end Served

namespace Routes

/-- The answer to a request that asks what it may do. -/
def preflight (r : Routes) (path : String) : Response :=
  let allowed := ["origin", "methods", "headers"].map fun what =>
    ("access-control-allow-" ++ what, "*")
  ⟨200, allowed ++ if (r.served? path).isSome then [Response.allow] else [], ""⟩

/-- The answer to a request. -/
def respond (r : Routes) (space : String) (state : Scraper.State) (method target : String) :
    Response :=
  let path := requestPath target
  if method = "OPTIONS" then r.preflight path
  else
    Response.shared <|
      match r.served? path, method with
      | none, _ => ⟨404, [], ""⟩
      | some served, "GET" => served.content space state
      | some served, "HEAD" => (served.content space state).bodiless
      | some _, _ => ⟨405, [Response.allow], ""⟩

end Routes

end FabricGauges
