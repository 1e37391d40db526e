import Reindexing.Http.MediaType
import Reindexing.Http.Target
import Reindexing.Uuid
import Reindexing.Wire.Error

/-!
# Routes and what requests bring

Health and metrics are served at the root only, the other places of the interface
also below a versioned prefix. Paths match exactly, segment by segment; a segment
that names a task or an entry is decoded when it is used. A body must be declared
as JSON, be no longer than the limit for bodies, and be a value of the right shape;
what follows the value does not matter.
A query may hold each of its known names once.
-/
namespace Reindexing.Api

/-! ### Routes -/

inductive Route where
  | health
  | metrics
  | submission
  | history
  | task (segment : String)
  | queue
  | entry (segment : String)
  | retry (segment : String)
  | mode (segment : String)
  | auditTrail
  deriving DecidableEq, Repr

namespace Route

/-- The versioned prefix of paths. -/
def versionPrefix : List String := ["api", "v1"]

/-- The routes that are also served below the prefix. -/
def ofSegments? : List String → Option Route
  | ["reindex"] => some .submission
  | ["reindex", "history"] => some .history
  | ["reindex", "tasks", id] => if id = "" then none else some (.task id)
  | ["reindex", "queue"] => some .queue
  | ["reindex", "queue", id] => if id = "" then none else some (.entry id)
  | ["reindex", "queue", id, "retry"] => some (.retry id)
  | ["reindex", "queue", id, "mode"] => some (.mode id)
  | ["reindex", "audit", "export"] => some .auditTrail
  | _ => none

/-- The route of a path. -/
def ofPath? (path : String) : Option Route :=
  match (Text.splitAt (· == '/') path.toList).map String.ofList with
  | ["", "health"] => some .health
  | ["", "metrics"] => some .metrics
  | "" :: segments =>
    if versionPrefix.isPrefixOf segments then ofSegments? (segments.drop versionPrefix.length)
    else ofSegments? segments
  | _ => none

/-- The methods that a route answers. -/
def methods : Route → List String
  | .entry _ => ["GET", "HEAD", "DELETE"]
  | .submission | .retry _ | .mode _ => ["POST"]
  | .health | .metrics | .history | .task _ | .queue | .auditTrail => ["GET", "HEAD"]

end Route

/-- The identifier in a segment of a path. -/
def segmentId? (segment : String) : Option Uuid := (Http.decodeSegment? segment).bind Uuid.ofText?

/-! ### Bodies and queries -/

open Wire Json

/-- Why a request is turned away before it reaches the engine. -/
inductive Rejection where
  | invalidPath
  | invalidQuery
  | noJsonBody
  | oversizedBody
  | malformedBody
  | unfitBody
  deriving DecidableEq, Repr

namespace Rejection

def status : Rejection → Nat
  | .invalidPath | .invalidQuery | .malformedBody => 400
  | .oversizedBody => 413
  | .noJsonBody => 415
  | .unfitBody => 422

def message : Rejection → String
  | .invalidPath => "Invalid URL"
  | .invalidQuery => "Failed to deserialize query string"
  | .noJsonBody => "Expected request with \x60Content-Type: application/json\x60"
  | .oversizedBody => "Failed to buffer the request body: length limit exceeded"
  | .malformedBody => "Failed to parse the request body as JSON"
  | .unfitBody => "Failed to deserialize the JSON body into the target type"

end Rejection

structure SubmitBody where
  scope : ScopeInput
  actor : String
  note : Option String
  traceId : Option String
  deriving DecidableEq, Repr

def submitBody : Codec SubmitBody :=
  .ofLayout
    (.field (.withDefault "scope" scopeInput (.several [])) <|
      .field (.required "actor" text) <|
      .field (.optionalInRecord "note" text) <|
      .field (.optionalInRecord "trace_id" text) .done)
    (fun b => (b.scope, b.actor, b.note, b.traceId, ()))
    (fun (scope, actor, note, traceId, ()) => { scope, actor, note, traceId })

structure RetryBody where
  actor : String
  note : Option String
  force : Bool
  deriving DecidableEq, Repr

def retryBody : Codec RetryBody :=
  .ofLayout
    (.field (.required "actor" text) <|
      .field (.optionalInRecord "note" text) <|
      .field (.withDefault "force" bool false) .done)
    (fun b => (b.actor, b.note, b.force, ()))
    (fun (actor, note, force, ()) => { actor, note, force })

structure ModeBody where
  mode : RetryMode
  actor : String
  deriving DecidableEq, Repr

def modeBody : Codec ModeBody :=
  .ofLayout
    (.field (.required "retry_mode" retryMode) <|
      .field (.required "actor" text) .done)
    (fun b => (b.mode, b.actor, ()))
    (fun (mode, actor, ()) => { mode, actor })

/-- The number of bytes that a body may have. -/
def bodyLimit : Nat := 2097152

/-- Reads the body of a request. What is not declared as JSON is not even received. -/
def readBody (codec : Codec α) (r : Http.Request) : Except Rejection α :=
  if ((r.header? "content-type").bind Http.MediaType.ofText?).any Http.MediaType.isJson then
    if r.body.utf8ByteSize ≤ bodyLimit then
      match codec.read (.text nestingLimit) (Document.read r.body).1 with
      | .ok a => .ok a
      | .error (.flaw _) => .error .malformedBody
      | .error _ => .error .unfitBody
    else .error .oversizedBody
  else .error .noJsonBody

/-- The values of the known names in a query. -/
def readQuery (names : List String) (r : Http.Request) : Except Rejection (String → Option String) :=
  let pairs := ((r.query.map Http.queryPairs).getD []).filter fun p => names.contains p.1
  let keys := pairs.map (·.1)
  if keys.eraseDups.length = keys.length then .ok fun name => (pairs.find? (·.1 = name)).map (·.2)
  else .error .invalidQuery

/-- The identifier in a segment of the path. -/
def readId (segment : String) : Except Rejection Uuid :=
  match segmentId? segment with
  | some id => .ok id
  | none => .error .invalidPath

/-- The name of whoever acts, without blanks around it. -/
def readActor (actor : String) : Except Error String :=
  let actor := Text.trim actor
  if actor = "" then .error (.ofValidation "actor must not be empty") else .ok actor

/-- The statuses in a list with commas. -/
def readStatuses (what : String) (ofText? : String → Option α) (list : Option String) : Except Error (List α) :=
  ((list.map Text.commaList).getD []).mapM fun name =>
    match ofText? name with
    | some status => .ok status
    | none => .error (.unknownStatus what name)

end Reindexing.Api
