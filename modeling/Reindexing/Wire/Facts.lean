import Reindexing.Audit
import Reindexing.Cli.Session
import Reindexing.Engine.Loop
import Reindexing.Http.Message
import Reindexing.Wire.Error
import Reindexing.Wire.Queue

/-!
# Reports and facts in JSON

Next to its wire form a value has facts that follow from it: a status may be
terminal, a code has a number and a category, an entry is eligible at some time.
Of an engine more can be told than tasks and entries: the passes of the scheduler,
the runs that were requested, exports of the audit trail, counts, and the settings
that are in force. These records are for people who inspect a system. Nothing
reads them back. What does go on the wire has a type with a name: a text is read as
the type of that name and written again, which gives the normal form of the text.
-/
namespace Reindexing

/-! ### Reports -/

/-- An optional value in JSON. -/
def Json.ofOption (f : α → Json) : Option α → Json
  | some a => f a
  | none => .null

def Transition.toJson (t : Transition) : Json :=
  .record [("task", Wire.task.write t.task), ("event", Wire.event.write t.event)]

def TickReport.toJson (r : TickReport) : Json :=
  let entries := (Wire.list Wire.entryId).write
  .record [("cooldowns_cleared", .nat r.cooldownsCleared), ("timed_out", (Wire.list Wire.taskId).write r.timedOut),
    ("retried", entries r.retried), ("skipped", entries r.skipped)]

/-- The counts of an engine: tasks, running tasks, queue entries and audit records. -/
def EngineStats.toJson (s : EngineStats) : Json :=
  .list [.nat s.totalTasks, .nat s.runningTasks, .nat s.queueDepth, .nat s.auditRecords]

/-- The counts of a scheduler: passes, retries and timeouts. -/
def SchedulerStats.toJson (s : SchedulerStats) : Json := .list [.nat s.ticks, .nat s.retried, .nat s.timedOut]

def RunRequest.toJson (r : RunRequest) : Json :=
  .record [("task", Wire.taskId.write r.task), ("scope", Wire.scope.write r.scope), ("attempt", .nat r.attempt),
    ("retry_of", .ofOption Wire.entryId.write r.retryOf), ("trace", .ofOption Wire.traceLink.write r.trace)]

/-- How many tasks have each status, and how many there are. -/
def Registry.countsJson (r : Registry) : Json :=
  .record [("by_status", .record (TaskStatus.every.map fun s => (s.name, .nat (r.countByStatus s)))),
    ("len", .nat r.size), ("empty", .bool (r.size == 0))]

/-- The lines of an export, and what they lack. -/
def AuditExport.fields (e : AuditExport) : List (String × Json) :=
  [("lines", .list ((Text.lines e.body).map .text)), ("missing", .nat e.missing), ("complete", .bool e.isComplete)]

def LogEvent.toJson (e : LogEvent) : Json := .record [("level", .text e.level.name), ("fields", e.fieldsToJson)]

/-- The histories of the tasks that pass a filter. -/
def Engine.historyJson (e : Engine) (filter : HistoryFilter) : Json :=
  .list ((e.listHistory filter).map Wire.taskHistoryToJson)

def Config.toJson (c : Config) : Json :=
  let span (s : Span) : Json := .text s.toText
  .record [
    ("server", .record [("host", .text c.server.host), ("port", .nat c.server.port)]),
    ("observability", .record [("otlp_endpoint", .ofOption .text c.observability.otlpEndpoint),
      ("log_level", .text c.observability.logLevel), ("json_logging", .bool c.observability.jsonLogging),
      ("trace_url_template", .ofOption .text c.observability.traceUrlTemplate)]),
    ("retry", .record [("max_attempts", .nat c.retry.maxAttempts), ("base_cooldown", span c.retry.baseCooldown),
      ("max_cooldown", span c.retry.maxCooldown), ("jitter_factor", .number (.real c.retry.jitterFactor.toBits))]),
    ("execution", .record [("timeout", span c.execution.timeout)]),
    ("scheduler", .record [("enabled", .bool c.scheduler.enabled), ("poll_interval", span c.scheduler.pollInterval)]),
    ("audit", .record [("path", .ofOption .text c.audit.path), ("max_in_memory", .nat c.audit.maxInMemory)]),
    ("evidence", .record [("sample_cap", .nat c.evidence.sampleCap)])]

/-! ### Facts -/

def Scope.facts (s : Scope) : Json :=
  .record [("wire", Wire.scope.write s), ("label", .text s.label), ("display", .text s.label), ("all", .bool s.isAll)]

/-- How two scopes lie to each other. -/
def Scope.relation (a b : Scope) : Json :=
  .record [("ab", .bool (a.overlaps b)), ("ba", .bool (b.overlaps a)), ("equal", .bool (a = b))]

def TaskStatus.facts (s : TaskStatus) : Json :=
  .record [("status", .text s.name), ("display", .text s.name), ("terminal", .bool s.isTerminal),
    ("active", .bool s.isActive), ("next", .list ((TaskStatus.every.filter s.canBecome).map fun t => .text t.name))]

def QueueStatus.facts (s : QueueStatus) : Json := .record [("status", .text s.name), ("display", .text s.name)]

def Outcome.facts (o : Outcome) : Json :=
  .record [("wire", Wire.outcome.write o), ("status", .text o.status.name), ("failure", .bool o.isFailure)]

/-- What remains of evidence when at most `cap` samples are kept. -/
def Evidence.factsWithin (cap : Nat) (e : Evidence) : Json :=
  let kept := e.track cap
  .record [("cap", .nat cap), ("diff", Wire.evidence.write kept), ("total", .nat kept.totalChanges.toNat),
    ("ids", .list (kept.samples.map fun s => .ofOption .text s.identifier)),
    ("status", .text (Outcome.success kept).status.name)]

def ErrorCode.facts (c : ErrorCode) : Json :=
  .record [("numeric", .nat c.number), ("http", .nat c.httpStatus), ("retryable", .bool c.isRetryable),
    ("category", .text c.category), ("severity", Wire.severity.write c.severity), ("display", .text c.title),
    ("wire", Wire.errorCode.write c)]

/-- An error with its envelope at the time `timestamp`. -/
def Error.facts (e : Error) (timestamp : String) : Json :=
  .record [("code", Wire.errorCode.write e.code), ("display", .text e.toText), ("user", .text e.user),
    ("internal", .ofOption .text e.internal), ("http", .nat e.code.httpStatus),
    ("retryable", .bool e.code.isRetryable), ("severity", Wire.severity.write e.code.severity),
    ("details", Wire.details.write e.details), ("envelope", Wire.errorEnvelope e timestamp),
    ("source", .ofOption .text e.source), ("response_status", .nat e.code.httpStatus)]

/-- An entry as a filter meets it at the time `now`. -/
def QueueEntry.facts (e : QueueEntry) (filter : QueueFilter) (now : Instant) : Json :=
  .record [("eligible", .bool (e.isEligible now)), ("exhausted", .bool e.isAutoExhausted),
    ("state", Wire.retryState.write (e.retryState now)), ("remaining", .ofOption .nat e.attemptsRemaining),
    ("touched", .text e.lastTouched.toText), ("matches", .bool (filter.matches e)),
    ("view", .text (Wire.view.write (e.view now)).compact)]

/-- The cooldown after so many attempts. -/
def CooldownPolicy.facts (p : CooldownPolicy) (attempts : Nat) : List (String × Json) :=
  [("attempts", .nat attempts), ("next", .text (p.nextCooldown attempts).toText)]

/-- The cooldown after so many attempts from the time `start`, if there is one for this draw. -/
def CooldownPolicy.exactFacts (p : CooldownPolicy) (start : Instant) (draw attempts : Nat) :
    Option (List (String × Json)) := do
  let delay ← p.jitteredCooldown attempts draw
  let ending ← p.cooldownUntil attempts draw start
  some [("jittered", .text delay.toText), ("until", .text ending.toText)]

/-- Whether no, half and full jitter lead to cooldowns between the plain one and the longest one, if they lead to
cooldowns. -/
def CooldownPolicy.jitterFacts (p : CooldownPolicy) (attempts : Nat) : Option (List (String × Json)) := do
  let plain := p.nextCooldown attempts
  let spread := p.spreadMillis plain
  let delays ← [0, spread / 2, spread].mapM (p.jitteredCooldown attempts)
  some [("jitter_in_bounds", .bool (delays.all fun delay => plain ≤ delay && delay ≤ p.max))]

def Queue.facts (q : Queue) : Json :=
  .record [("len", .nat q.size), ("empty", .bool (q.size == 0)), ("max_attempts", .nat q.maxAttempts),
    ("base", .text q.policy.base.toText), ("max", .text q.policy.max.toText)]

def Claim.toJson (c : Claim) : Json :=
  .record [("entry", Wire.entry.write c.entry), ("mutations", (Wire.list Wire.mutation).write c.mutations)]

def AuditLog.facts (l : AuditLog) : Json :=
  .record [("len", .nat l.size), ("empty", .bool (l.size == 0)), ("evicted", .nat l.evicted),
    ("debug", .text l.inspect)]

/-- Everything that an engine holds: its histories, its queue and its audit trail. -/
def Engine.holdings (e : Engine) : Json :=
  .record [("history", e.historyJson ⟨[], none⟩), ("queue", (Wire.list Wire.view).write (e.listQueue ⟨[], none⟩).2),
    ("audit", (Wire.list Wire.record).write e.audit.records)]

/-- The lines of a text that are not empty, in order. -/
def Text.sortedLinesJson (text : String) : Json :=
  .list ((((Text.lines text).filter (· ≠ "")).mergeSort fun a b => a ≤ b).map .text)

/-- The body of a response: JSON as it is, records and metrics by lines, and any other text as `other` says. -/
def Http.Response.bodyJson (r : Http.Response) (other : String → Json) : Json :=
  let type := (r.header? "content-type").getD ""
  let text := r.content.toText
  match r.content with
  | .compressed _ => .text "<compressed>"
  | .json j => j
  | _ =>
    if type = "application/json" then .null
    else if type = "application/x-ndjson" then .list ((Text.lines text).map .text)
    else if Text.contains type "version=0.0.4" then Text.sortedLinesJson text
    else other text

def Cli.Call.toJson (c : Cli.Call) : Json :=
  .record [("method", .text c.method), ("target", .text c.target),
    ("content_type", .ofOption .text c.contentType), ("body", .text c.body)]

/-! ### Values by the names of their types -/

namespace Wire

open Json

/-- Reads a text and writes its value again. -/
def normalize (codec : Codec α) (text : String) : Except DecodeError String :=
  (decodeText codec.read text).map fun a => (codec.write a).compact

/-- The types by name. -/
def catalog : List (String × (String → Except DecodeError String)) :=
  [("scope", normalize scope), ("scope_input", normalize scopeInput), ("task", normalize task),
    ("task_id", normalize taskId), ("queue_id", normalize entryId), ("task_status", normalize taskStatus),
    ("queue_status", normalize queueStatus), ("retry_mode", normalize retryMode),
    ("retry_state", normalize retryState), ("mutation_kind", normalize mutationKind),
    ("diff_type", normalize changeKind), ("outcome", normalize outcome), ("evidence", normalize evidence),
    ("sample", normalize sample), ("event", normalize event), ("entry", normalize entry), ("view", normalize view),
    ("mutation", normalize mutation), ("record", normalize Wire.record), ("trace", normalize traceLink),
    ("error_code", normalize errorCode), ("severity", normalize severity), ("details", normalize details),
    ("api_response", normalize answer)]

end Wire

end Reindexing
