import Reindexing.Api.Endpoint

/-!
# Interface

How a server answers a request. A preflight request is answered at once. Any
other is checked for its content type and handed to its route, inside a span of
its own; what the routes answer is stamped with a version and an identifier.
A response may then be compressed, and every response may be read from anywhere.
-/
namespace Reindexing.Api

open Http (Request Response)

def requestIdHeader : String := "x-request-id"

/-- The identifier of a request: its own, or a fresh one. -/
def Server.requestId (s : Server) (r : Request) : String := (r.header? requestIdHeader).getD s.freshRequestId

/-- Stamps a response with the version of the interface and the identifier of its request. -/
def Server.stamp (s : Server) (r : Request) (response : Response) : Response :=
  (response.withHeader "x-api-version" "1.0").withHeader requestIdHeader (s.requestId r)

/-- The response of the routes. -/
def Server.route (s : Server) (r : Request) (e : Engine) : Engine × Response :=
  match Route.ofPath? r.path with
  | none => (e, .bare 404)
  | some route =>
    if route.methods.contains r.method then
      let (e, response) := s.perform (s.action route r) e
      (e, if r.method = "HEAD" then response.withoutContent else response)
    else (e, .bare 405)

/-- Why the content type of a request is not accepted: a message and a code. -/
def contentTypeFault? (r : Request) : Option (String × String) :=
  if ["POST", "PUT", "PATCH"].contains r.method then
    match r.header? "content-type" with
    | none => some ("Content-Type header is required for this request", "MISSING_CONTENT_TYPE")
    | some type =>
      if Text.contains type "application/json" then none
      else some ("Content-Type must be application/json", "UNSUPPORTED_MEDIA_TYPE")
  else none

/-- Checks the content type, then routes. -/
def Server.checkAndRoute (s : Server) (r : Request) (e : Engine) : Engine × Response :=
  match contentTypeFault? r with
  | some (message, code) => (e, .json 415 (Wire.answer.write (.ofCode message code)))
  | none =>
    let (e, response) := s.route r e
    (e, s.stamp r response)

/-- The span of a request. -/
def requestSpan (r : Request) : LogSpan :=
  let target := match r.query with
    | some query => r.path ++ "?" ++ query
    | none => r.path
  ⟨"request", "tower_http::trace::make_span", .debug,
    [("method", .shown r.method), ("uri", .shown target), ("version", .shown "HTTP/1.1")]⟩

/-- The answer to a preflight request. -/
def preflight : Response :=
  ⟨200, [("access-control-allow-methods", "*"), ("access-control-allow-headers", "*")], .empty⟩

/-- Answers a request whose method is not for preflight, inside a span of its own. -/
def Server.handle (s : Server) (r : Request) (e : Engine) : Engine × Response :=
  let (surroundings, e) := e.openSpan (requestSpan r)
  let (inner, response) := s.checkAndRoute r { e with surroundings }
  ({ inner with surroundings := e.surroundings }, response.compressFor r)

/-- The methods that a path allows, for a request that uses another one. -/
def allowed? (r : Request) : Option (List String) :=
  (Route.ofPath? r.path).bind fun route =>
    if route.methods.contains r.method then none else some route.methods

/-- Answers a request. -/
def Server.respond (s : Server) (r : Request) (e : Engine) : Engine × Response :=
  let (e, response) := if r.method = "OPTIONS" then (e, preflight) else s.handle r e
  let response := response.withHeader "access-control-allow-origin" "*"
  match allowed? r with
  | some methods => (e, response.withHeader "allow" (Text.join "," methods))
  | none => (e, response)

end Reindexing.Api
