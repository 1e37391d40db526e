import Reindexing.Config
import Reindexing.Error
import Reindexing.Metrics
import Reindexing.Queue
import Reindexing.Registry
import Reindexing.Runner

/-!
# Engine state

An engine owns a registry, a retry queue, an audit log, metrics and a journal of
log events. What it takes from outside (readings of a clock, fresh identifiers
and random draws) comes from a supply that is fixed beforehand, so that every
run is a function of its inputs. Dispatched runs wait in a list until they are
begun.
-/
namespace Reindexing

/-- What an engine takes from outside, and how much of it has been taken. -/
structure Supply where
  clock : Nat → Instant
  taskIds : Nat → TaskId
  entryIds : Nat → EntryId
  draws : Nat → Nat
  readings : Nat
  tasks : Nat
  entries : Nat
  drawn : Nat

/-- The spans of work around what happens now. -/
structure Surroundings where
  /-- Outermost first. -/
  spans : List LogSpan
  /-- The innermost span of the trace, if traces are kept. -/
  context : Option SpanContext
  deriving DecidableEq, Repr, Inhabited

/-- How traces are kept: whether at all, and how many traces and spans there are. -/
structure Tracing where
  isActive : Bool
  traces : Nat
  spans : Nat
  deriving DecidableEq, Repr, Inhabited

/-- A run that was dispatched. -/
structure Run where
  request : RunRequest
  surroundings : Surroundings
  deriving DecidableEq, Repr

structure Engine where
  /-- How long a task may run. -/
  timeout : Span
  sampleCap : Nat
  linker : TraceLinker
  registry : Registry
  queue : Queue
  audit : AuditLog
  disk : Disk
  metrics : Metrics
  /-- Newest first. -/
  journal : List LogEvent
  supply : Supply
  tracing : Tracing
  surroundings : Surroundings
  runner : Runner
  /-- Dispatched runs that have not begun, oldest first. -/
  dispatched : List Run

namespace Engine

/-- An engine without tasks. -/
def ofConfig (config : Config) (audit : AuditLog) (disk : Disk) (runner : Runner) (supply : Supply) : Engine where
  timeout := config.execution.timeout
  sampleCap := config.evidence.sampleCap
  linker := .ofTemplate config.observability.traceUrlTemplate
  registry := .empty
  queue := .empty config.policy config.retry.maxAttempts
  audit := audit
  disk := disk
  metrics := .empty
  journal := (audit.file.map fun file => AuditLog.openedEvent file.path).toList
  supply := supply
  tracing := ⟨false, 0, 0⟩
  surroundings := ⟨[], none⟩
  runner := runner
  dispatched := []

/-- Whether the program still runs, which a cooldown that cannot be formed ends. -/
def isUp (e : Engine) : Bool := !e.queue.overflowed

/-- Reads the clock. -/
def now (e : Engine) : Instant × Engine :=
  (e.supply.clock e.supply.readings, { e with supply := { e.supply with readings := e.supply.readings + 1 } })

/-- The identifier that the next task gets. -/
def nextTaskId (e : Engine) : TaskId := e.supply.taskIds e.supply.tasks

/-- The identifier that the next queue entry gets. -/
def nextEntryId (e : Engine) : EntryId := e.supply.entryIds e.supply.entries

/-- The random draw for the next cooldown. -/
def nextDraw (e : Engine) : Nat := e.supply.draws e.supply.drawn

def takeTaskId (e : Engine) : Engine := { e with supply := { e.supply with tasks := e.supply.tasks + 1 } }

def takeEntryId (e : Engine) : Engine := { e with supply := { e.supply with entries := e.supply.entries + 1 } }

def takeDraw (e : Engine) : Engine := { e with supply := { e.supply with drawn := e.supply.drawn + 1 } }

/-- Writes an event into the journal. -/
def tell (e : Engine) (event : LogEvent) : Engine :=
  { e with journal := { event with spans := e.surroundings.spans } :: e.journal }

def mapMetrics (e : Engine) (f : Metrics → Metrics) : Engine := { e with metrics := f e.metrics }

/-- Counts an error that came up. -/
def count (e : Engine) (error : Error) : Engine := e.mapMetrics (·.countError error.code)

/-- Counts a refusal. -/
def countRefusal (e : Engine) (r : Refusal) : Engine := e.count (.ofRefusal r)

/-- Appends a record to the audit trail; a fault of the file is logged. -/
def record (e : Engine) (record : AuditRecord) : Engine :=
  match e.audit.append record e.disk with
  | (audit, disk, none) => { e with audit, disk }
  | (audit, disk, some error) => ({ e with audit, disk }.count error).tell error.event

def recordTransition (e : Engine) (t : Transition) : Engine := e.record (.event t.event)

def recordMutation (e : Engine) (m : Mutation) : Engine := e.record (.mutation m)

/-- The trace link for a trace that a caller names, or for the active span. -/
def link (e : Engine) (traceId : Option String) : Option TraceLink :=
  e.linker.link e.surroundings.context traceId

def showQueueDepth (e : Engine) : Engine := e.mapMetrics (·.setGauge Metrics.queueDepthName e.queue.size)

def showRunning (e : Engine) : Engine :=
  e.mapMetrics (·.setGauge Metrics.runningName (e.registry.countByStatus .running))

def hexText (width n : Nat) : String := String.ofList (Json.hexDigits width n)

/-- Opens a span inside what happens now. The span belongs to the active trace, or starts the next one. -/
def openSpan (e : Engine) (span : LogSpan) : Surroundings × Engine :=
  let spans := e.surroundings.spans ++ [span]
  if e.tracing.isActive then
    let tracing := { e.tracing with spans := e.tracing.spans + 1 }
    let (traceId, tracing) := match e.surroundings.context with
      | some active => (active.traceId, tracing)
      | none => (hexText 32 (tracing.traces + 1), { tracing with traces := tracing.traces + 1 })
    (⟨spans, some ⟨traceId, hexText 16 tracing.spans⟩⟩, { e with tracing })
  else (⟨spans, none⟩, e)

/-- Does something inside other surroundings. -/
def inside (e : Engine) (s : Surroundings) (f : Engine → Engine) : Engine :=
  { f { e with surroundings := s } with surroundings := e.surroundings }

/-- The events in the journal, oldest first. -/
def events (e : Engine) : List LogEvent := e.journal.reverse

end Engine

end Reindexing
