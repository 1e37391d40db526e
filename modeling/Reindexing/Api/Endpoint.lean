import Reindexing.Api.Input
import Reindexing.Engine
import Reindexing.Metrics.Text
import Reindexing.Wire.Queue

/-!
# Endpoints

What each place of the interface does with the engine. A request that cannot be
understood is turned away; an error of the engine is logged and sent in its
envelope. Everything else answers with data.
-/
namespace Reindexing.Api

open Http (Request Response)

/-- What a server knows beside its engine. -/
structure Server where
  /-- The service that metrics are labelled with, if metrics are kept. -/
  service : Option String
  /-- The text of the present time. -/
  time : String
  /-- The identifier of a request that brings none. -/
  freshRequestId : String
  deriving DecidableEq, Repr

/-- The version of the program. -/
def version : String := "0.1.0"

/-- An action on the engine that a request may fail to reach, or that may fail itself. -/
abbrev Action := Engine → Engine × Except Error Response

/-- The response to an error, which is logged. -/
def Server.fail (s : Server) (e : Engine) (error : Error) : Engine × Response :=
  (e.tell error.event, .json error.code.httpStatus (Wire.errorEnvelope error s.time))

/-- Acts on the engine unless the request is turned away. -/
def Server.perform (s : Server) (action : Except Rejection Action) (e : Engine) : Engine × Response :=
  match action with
  | .error r => (e, .text r.status "text/plain; charset=utf-8" r.message)
  | .ok act =>
    match act e with
    | (e, .ok response) => (e, response)
    | (e, .error error) => s.fail e error

def succeed (status : Nat) (data : Json) : Response := .json status (Wire.dataEnvelope data)

/-- Turns a refusal of the engine into its error. -/
def answered (f : α → Response) : Engine × Except Refusal α → Engine × Except Error Response
  | (e, .ok a) => (e, .ok (f a))
  | (e, .error r) => (e, .error (.ofRefusal r))

/-- Goes on with a value that may be wrong; the error is counted. -/
def checked (value : Except Error α) (act : α → Action) : Action := fun e =>
  match value with
  | .ok a => act a e
  | .error error => (e.count error, .error error)

def healthJson (s : Server) (e : Engine) : Json :=
  let stats := e.stats
  .record [("status", .text "healthy"), ("version", .text version), ("timestamp", .text s.time),
    ("queue_depth", .nat stats.queueDepth), ("running_tasks", .nat stats.runningTasks),
    ("total_tasks", .nat stats.totalTasks)]

/-- The metrics as text; nothing if none are kept. -/
def Server.metricsText (s : Server) (e : Engine) : Engine × String :=
  match s.service with
  | some service => (e.mapMetrics (·.closeBatches), e.metrics.toText service)
  | none => (e, "")

/-- The registry of metrics as people inspect it. -/
def Server.inspectMetrics (s : Server) : String :=
  "MetricsRegistry \x7b prometheus_handle: " ++ (if s.service.isSome then "true" else "false") ++ " \x7d"

def submittedJson (t : Task) : Json :=
  .record ([("task_id", Wire.taskId.write t.id), ("status", Wire.taskStatus.write t.status),
      ("scope", Wire.scope.write t.scope)] ++
    match t.trace with | some trace => [("trace", Wire.traceLink.write trace)] | none => [])

def submit (b : SubmitBody) : Action :=
  checked ((Scope.ofKeys b.scope.toKeys).mapError .ofScope) fun scope =>
    checked (readActor b.actor) fun actor e =>
      let traceId := b.traceId.filter fun id => !Text.isBlankText id
      answered (fun t => succeed 202 (submittedJson t)) (e.submit ⟨scope, actor, b.note, traceId⟩)

/-- The names of a query for a list. -/
def listNames : List String := ["status", "q"]

def listHistory (query : String → Option String) : Action :=
  checked (readStatuses "task status" TaskStatus.ofText? (query "status")) fun statuses e =>
    (e, .ok (succeed 200 (.list ((e.listHistory ⟨statuses, query "q"⟩).map Wire.taskHistoryToJson))))

def listQueue (query : String → Option String) : Action :=
  checked (readStatuses "queue status" QueueStatus.ofText? (query "status")) fun statuses e =>
    let (e, views) := e.listQueue ⟨statuses, query "q"⟩
    (e, .ok (succeed 200 ((Wire.list Wire.view).write views)))

def retry (id : EntryId) (b : RetryBody) : Action :=
  checked (readActor b.actor) fun actor e =>
    match e.retry id ⟨actor, b.note, b.force⟩ with
    | (e, .error r) => (e, .error (.ofRefusal r))
    | (e, .ok entry) =>
      let (now, e) := e.now
      (e, .ok (succeed 200 (Wire.view.write (entry.view now))))

def setMode (id : EntryId) (b : ModeBody) : Action :=
  checked (readActor b.actor) fun actor e =>
    answered (fun v => succeed 200 (Wire.view.write v)) (e.setRetryMode id b.mode actor)

/-- The header that tells how many records an exported trail lacks. -/
def missingHeader : String := "x-audit-missing-records"

def trailResponse (trail : AuditExport) : Response :=
  let response := Response.text 200 "application/x-ndjson" trail.body
  if trail.isComplete then response else response.withHeader missingHeader (Decimal.ofNat trail.missing)

def auditTrail : Action := fun e =>
  match e.exportAudit with
  | (e, .ok trail) => (e, .ok (trailResponse trail))
  | (e, .error error) => (e, .error error)

/-- What a route does with a request whose method it answers. -/
def Server.action (s : Server) (route : Route) (r : Request) : Except Rejection Action :=
  match route with
  | .health => .ok fun e => (e, .ok (.json 200 (healthJson s e)))
  | .metrics => .ok fun e =>
    let (e, text) := s.metricsText e
    (e, .ok (.text 200 "text/plain; version=0.0.4; charset=utf-8" text))
  | .submission => (readBody submitBody r).map submit
  | .history => (readQuery listNames r).map listHistory
  | .task segment => (readId segment).map fun id e =>
    answered (fun h => succeed 200 (Wire.taskHistoryToJson h)) (e.taskHistory ⟨id⟩)
  | .queue => (readQuery listNames r).map listQueue
  | .entry segment => do
    let id ← readId segment
    if r.method = "DELETE" then
      let query ← readQuery ["actor"] r
      pure fun e => answered (fun () => .bare 204) (e.remove ⟨id⟩ (query "actor"))
    else pure fun e => answered (fun v => succeed 200 (Wire.view.write v)) (e.queueEntry ⟨id⟩)
  | .retry segment => do
    let id ← readId segment
    pure (retry ⟨id⟩ (← readBody retryBody r))
  | .mode segment => do
    let id ← readId segment
    pure (setMode ⟨id⟩ (← readBody modeBody r))
  | .auditTrail => .ok auditTrail

end Reindexing.Api
