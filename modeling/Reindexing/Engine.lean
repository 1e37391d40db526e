import Reindexing.Engine.State

/-!
# Engine

The operations that tie tasks, the retry queue and the audit trail together. A
submission creates a task and dispatches its run; an outcome ends the task, and
a failure is routed into the queue, where a retry resubmits the scope. Every
change is audited. An operation returns the engine beside its result, so that
what a refused operation leaves behind is part of its meaning.
-/
namespace Reindexing

/-- A request to reindex a scope. -/
structure SubmitCommand where
  scope : Scope
  actor : String
  note : Option String
  /-- The trace that the caller names in place of the active span. -/
  traceId : Option String
  deriving DecidableEq, Repr

/-- A request to retry a queue entry. -/
structure RetryCommand where
  actor : String
  note : Option String
  /-- Retry also during a cooldown and without attempts left. -/
  force : Bool
  deriving DecidableEq, Repr

/-- What one pass of the scheduler did. -/
structure TickReport where
  cooldownsCleared : Nat
  timedOut : List TaskId
  retried : List EntryId
  skipped : List EntryId
  deriving DecidableEq, Repr

structure EngineStats where
  totalTasks : Nat
  runningTasks : Nat
  queueDepth : Nat
  auditRecords : Nat
  deriving DecidableEq, Repr

namespace Engine

/-- The actor of the retries that the scheduler starts. -/
def schedulerActor : String := "scheduler"

def registryTarget : String := "reindex_core::jobs::registry"

def queueTarget : String := "reindex_core::jobs::retry_queue"

def engineTarget : String := "reindex_core::jobs::engine"

def evidenceTarget : String := "reindex_core::jobs::evidence"

/-! ### Tasks -/

def submittedEvent (t : Task) : LogEvent :=
  ⟨.info, registryTarget, "Reindex task submitted",
    [("task_id", .shown t.id.toText), ("scope", .shown t.scope.label), ("actor", .shown t.actor),
      ("status", .shown t.status.name)], []⟩

/-- Creates a task. -/
def create (e : Engine) (s : Submission) (now : Instant) : Engine × Except Refusal Transition :=
  match e.registry.submit e.nextTaskId s now with
  | .error r => (e.countRefusal r, .error r)
  | .ok (registry, created) =>
    (({ e with registry }.takeTaskId).tell (submittedEvent created.task), .ok created)

/-- The span of a run. -/
def runSpan (e : Engine) (t : Task) (attempt : Nat) : LogSpan :=
  ⟨"reindex.run", engineTarget, .info,
    [("task_id", .shown t.id.toText), ("scope", .shown t.scope.label), ("attempt", .number attempt),
      ("runner", .plain e.runner.name)]⟩

/-- Marks a task as running and hands it to the runner. -/
def dispatch (e : Engine) (task : Task) (attempt : Nat) : Engine × Except Refusal Task :=
  let (now, e) := e.now
  match e.registry.markRunning task.id task.trace now with
  | .error r => (e.countRefusal r, .error r)
  | .ok (registry, running) =>
    let e := ({ e with registry }.recordTransition running).showRunning
    let task := running.task
    let (surroundings, e) := e.openSpan (e.runSpan task attempt)
    let request : RunRequest := ⟨task.id, task.scope, attempt, task.retryOf, task.trace⟩
    ({ e with dispatched := e.dispatched ++ [⟨request, surroundings⟩] }, .ok task)

/-- Creates a task for a scope and dispatches it. -/
def submit (e : Engine) (c : SubmitCommand) : Engine × Except Refusal Task :=
  let trace := e.link c.traceId
  let (now, e) := e.now
  match e.create ⟨c.scope, c.actor, c.note, trace, none⟩ now with
  | (e, .error r) => (e, .error r)
  | (e, .ok created) =>
    let e := (e.recordTransition created).mapMetrics (·.increment (Metrics.submittedSeries false))
    e.dispatch created.task 0

/-! ### Outcomes -/

def truncatedEvent (reported kept : Nat) : LogEvent :=
  ⟨.debug, evidenceTarget, "Truncating evidence samples",
    [("reported", .number reported), ("kept", .number kept)], []⟩

/-- Tells when an outcome has more samples than are kept. -/
def tellTruncation (e : Engine) (o : Outcome) : Engine :=
  match o with
  | .success evidence | .partly evidence =>
    if e.sampleCap < evidence.samples.length then
      e.tell (truncatedEvent evidence.samples.length e.sampleCap)
    else e
  | .failure .. => e

def finishedEvent (t : Task) : LogEvent :=
  ⟨.info, registryTarget, "Reindex task finished",
    [("task_id", .shown t.id.toText), ("scope", .shown t.scope.label), ("status", .shown t.status.name),
      ("duration_ms", .shown (Text.inspectOption Decimal.ofInt t.durationMillis)),
      ("error_code", .ofOption t.errorCode)], []⟩

def inspectInstant (t : Option Instant) : LogValue := .shown (Text.inspectOption Instant.toText t)

/-- What the queue tells when a failed task was recorded. -/
def enqueuedEvent (m : Mutation) (failed : Task) : LogEvent :=
  let common := [("queue_id", LogValue.shown m.entry.id.toText), ("task_id", .shown failed.id.toText),
    ("scope", .shown failed.scope.label)]
  match m.kind with
  | .created =>
    ⟨.info, queueTarget, "Retry entry created",
      common ++ [("cooldown_until", inspectInstant m.entry.cooldownUntil)], []⟩
  | _ => ⟨.info, queueTarget, "Existing retry entry updated for repeated failure", common, []⟩

/-- What the queue tells when a retry failed. -/
def retryFailedEvent (entry : QueueEntry) : LogEvent :=
  if entry.isAutoExhausted then
    ⟨.warn, queueTarget, "Automatic retries exhausted; manual retry required",
      [("queue_id", .shown entry.id.toText), ("attempts", .number entry.attempts),
        ("scope", .shown entry.scope.label)], []⟩
  else
    ⟨.info, queueTarget, "Retry failed; waiting for next window",
      [("queue_id", .shown entry.id.toText), ("attempts", .number entry.attempts),
        ("cooldown_until", inspectInstant entry.cooldownUntil)], []⟩

/-- Records a failed task in the queue. -/
def enqueue (e : Engine) (failed : Task) (now : Instant) : Engine × Except Refusal Mutation :=
  match e.queue.enqueue failed .auto now e.nextEntryId e.nextDraw with
  | .error r => (e.countRefusal r, .error r)
  | .ok (queue, m) =>
    let e := { e with queue }.takeDraw
    let e := if m.kind = .created then e.takeEntryId else e
    (e.tell (enqueuedEvent m failed), .ok m)

/-- Routes a failed task into the queue: to the entry that it retried if that is still there,
otherwise to the entry of its scope. -/
def routeFailure (e : Engine) (failed : Task) (now : Instant) : Engine × Except Refusal Mutation :=
  match failed.retryOf with
  | none => e.enqueue failed now
  | some entry =>
    match e.queue.recordRetryFailure entry failed now e.nextDraw with
    | .ok (queue, m) => (({ e with queue }.takeDraw).tell (retryFailedEvent m.entry), .ok m)
    | .error r => (e.countRefusal r).enqueue failed now

def resolvedEvent (entry : QueueEntry) : LogEvent :=
  ⟨.info, queueTarget, "Retry succeeded; entry resolved",
    [("queue_id", .shown entry.id.toText), ("scope", .shown entry.scope.label)], []⟩

/-- Drops the entry whose retry succeeded, if it is still there. -/
def resolveRetry (e : Engine) (done : Task) (now : Instant) : Engine :=
  match done.retryOf with
  | none => e
  | some entry =>
    match e.queue.resolve entry now with
    | (queue, some m) => ({ e with queue }.tell (resolvedEvent m.entry)).recordMutation m
    | (queue, none) => { e with queue }

/-- What follows in the queue when a task has finished. -/
def settleQueue (e : Engine) (done : Task) (now : Instant) : Engine × Except Refusal Unit :=
  if done.status = .failed then
    match e.routeFailure done now with
    | (e, .error r) => (e, .error r)
    | (e, .ok m) => (e.recordMutation m, .ok ())
  else (e.resolveRetry done now, .ok ())

/-- Ends a running task with what its run reported. -/
def recordOutcome (e : Engine) (id : TaskId) (reported : Outcome) : Engine × Except Refusal Task :=
  let e := e.tellTruncation reported
  let (now, e) := e.now
  match e.registry.recordOutcome id (reported.track e.sampleCap) none (e.link none) now with
  | .error r => (e.countRefusal r, .error r)
  | .ok (registry, finished) =>
    let e := { e with registry }.tell (finishedEvent finished.task)
    let e := (e.recordTransition finished).mapMetrics
      (·.countFinished finished.task.status finished.task.durationMillis)
    match e.settleQueue finished.task now with
    | (e, .error r) => (e, .error r)
    | (e, .ok ()) => ((e.showQueueDepth).showRunning, .ok finished.task)

/-! ### Retry queue -/

def claimedEvent (claim : Claim) (actor : String) (force : Bool) : LogEvent :=
  ⟨.info, queueTarget, "Retry entry claimed",
    [("queue_id", .shown claim.entry.id.toText), ("attempts", .number claim.entry.attempts),
      ("max_attempts", .number claim.entry.maxAttempts), ("retry_mode", .shown claim.entry.mode.name),
      ("actor", .shown actor), ("forced", .flag force)], []⟩

/-- Claims an entry and audits the claim. -/
def claim (e : Engine) (id : EntryId) (c : RetryCommand) (now : Instant) : Engine × Except Refusal Claim :=
  match e.queue.claim id c.actor c.note c.force now with
  | (queue, .error r) => ({ e with queue }.countRefusal r, .error r)
  | (queue, .ok claim) =>
    let e := { e with queue }.tell (claimedEvent claim c.actor c.force)
    (claim.mutations.foldl recordMutation e, .ok claim)

/-- Rolls a claim back and audits that. -/
def release (e : Engine) (claim : Claim) (now : Instant) : Engine :=
  match e.queue.release claim now with
  | (queue, some m) => { e with queue }.recordMutation m
  | (queue, none) => { e with queue }

/-- Names the task of a claimed entry; an entry that is gone meanwhile needs none. -/
def attach (e : Engine) (id : EntryId) (task : TaskId) : Engine :=
  match e.queue.attach id task with
  | .ok queue => { e with queue }
  | .error r => e.countRefusal r

def dispatchedEvent (entry : QueueEntry) (task : TaskId) (actor : String) : LogEvent :=
  ⟨.info, engineTarget, "Retry dispatched",
    [("queue_id", .shown entry.id.toText), ("task_id", .shown task.toText),
      ("attempts", .number entry.attempts), ("actor", .shown actor)], []⟩

/-- Resubmits the scope of an entry as a new task. If another task holds the scope, the claim is
rolled back. -/
def retry (e : Engine) (id : EntryId) (c : RetryCommand) : Engine × Except Refusal QueueEntry :=
  let (now, e) := e.now
  match e.claim id c now with
  | (e, .error r) => (e, .error r)
  | (e, .ok claim) =>
    let entry := claim.entry
    match e.create ⟨entry.scope, c.actor, c.note, e.link none, some id⟩ now with
    | (e, .error r) => (e.release claim now, .error r)
    | (e, .ok created) =>
      let e := (e.recordTransition created).mapMetrics fun m =>
        (m.increment (Metrics.submittedSeries true)).increment (Metrics.retriesSeries entry.mode)
      let task := created.task.id
      match (e.attach id task).dispatch created.task entry.attempts with
      | (e, .error r) => (e, .error r)
      | (e, .ok _) =>
        (e.tell (dispatchedEvent entry task c.actor), .ok { entry with currentTask := some task })

def removedEvent (id : EntryId) (actor : Option String) : LogEvent :=
  ⟨.info, queueTarget, "Retry entry removed",
    [("queue_id", .shown id.toText), ("actor", .ofOption actor)], []⟩

/-- Dismisses an entry; the history of its tasks stays. -/
def remove (e : Engine) (id : EntryId) (actor : Option String) : Engine × Except Refusal Unit :=
  let (now, e) := e.now
  match e.queue.remove id actor now with
  | .error r => (e.countRefusal r, .error r)
  | .ok (queue, m) =>
    let e := { e with queue }.tell (removedEvent id actor)
    ((e.recordMutation m).showQueueDepth, .ok ())

def modeChangedEvent (id : EntryId) (mode : RetryMode) (actor : String) : LogEvent :=
  ⟨.info, queueTarget, "Retry mode changed",
    [("queue_id", .shown id.toText), ("retry_mode", .shown mode.name), ("actor", .shown actor)], []⟩

def setRetryMode (e : Engine) (id : EntryId) (mode : RetryMode) (actor : String) :
    Engine × Except Refusal EntryView :=
  let (now, e) := e.now
  match e.queue.setMode id mode actor now e.nextDraw with
  | .error r => (e.countRefusal r, .error r)
  | .ok (queue, m) =>
    let e := ({ e with queue }.takeDraw).tell (modeChangedEvent id mode actor)
    (e.recordMutation m, .ok (m.entry.view now))

/-! ### Looking things up -/

/-- Counts the refusal of a look-up that failed. -/
def answer (e : Engine) (r : Except Refusal α) : Engine × Except Refusal α :=
  match r with
  | .ok a => (e, .ok a)
  | .error r => (e.countRefusal r, .error r)

def queueEntry (e : Engine) (id : EntryId) : Engine × Except Refusal EntryView :=
  match e.queue.get id with
  | .error r => (e.countRefusal r, .error r)
  | .ok entry =>
    let (now, e) := e.now
    (e, .ok (entry.view now))

def listQueue (e : Engine) (filter : QueueFilter) : Engine × List EntryView :=
  let (now, e) := e.now
  (e, (e.queue.list filter).map (·.view now))

def listHistory (e : Engine) (filter : HistoryFilter) : List TaskHistory := e.registry.listHistory filter

def taskHistory (e : Engine) (id : TaskId) : Engine × Except Refusal TaskHistory :=
  e.answer (e.registry.taskHistory id)

def get (e : Engine) (id : TaskId) : Engine × Except Refusal Task := e.answer (e.registry.get id)

/-- Exports the audit trail. -/
def exportAudit (e : Engine) : Engine × Except Error AuditExport :=
  match e.audit.toExport e.disk with
  | .ok trail => (e.audit.exportEvents.foldl tell e, .ok trail)
  | .error error => (e.count error, .error error)

def stats (e : Engine) : EngineStats :=
  ⟨e.registry.size, e.registry.countByStatus .running, e.queue.size, e.audit.size⟩

/-! ### Scheduling -/

def timeoutEvent (id : TaskId) (timeout : Span) : LogEvent :=
  ⟨.warn, engineTarget, "Task exceeded execution timeout",
    [("task_id", .shown id.toText), ("timeout_secs", .number timeout.seconds)], []⟩

/-- Fails a task that runs too long; the flag tells whether it still ran. -/
def timeOut (e : Engine) (id : TaskId) : Engine × Bool :=
  match e.recordOutcome id .timeout with
  | (e, .ok _) => ((e.tell (timeoutEvent id e.timeout)).mapMetrics (·.increment Metrics.timeoutsSeries), true)
  | (e, .error (.outcomeRecorded ..)) => (e, false)
  | (e, .error r) => (e.tell (Error.ofRefusal r).event, false)

/-- Fails the tasks in a list, and names those that still ran. -/
def timeOutAll (e : Engine) : List TaskId → Engine × List TaskId
  | [] => (e, [])
  | id :: rest =>
    let (e, failed) := e.timeOut id
    let (e, ids) := e.timeOutAll rest
    (e, if failed then id :: ids else ids)

/-- Fails every task that has run for the timeout or longer. -/
def runWatchdog (e : Engine) : Engine × List TaskId :=
  let (now, e) := e.now
  e.timeOutAll (e.registry.timedOut e.timeout now)

/-- Whether a refusal only says that something else is going on. -/
def isContention : Refusal → Bool
  | .scopeBusy .. | .notEligible .. | .entryNotFound _ => true
  | _ => false

def skippedEvent (id : EntryId) (r : Refusal) : LogEvent :=
  ⟨.debug, engineTarget, "Skipping retry this tick",
    [("queue_id", .shown id.toText), ("reason", .shown (Error.ofRefusal r).toText)], []⟩

/-- Retries one entry for the scheduler; the flag tells whether it succeeded. -/
def retryOne (e : Engine) (id : EntryId) : Engine × Bool :=
  match e.retry id ⟨schedulerActor, none, false⟩ with
  | (e, .ok _) => (e, true)
  | (e, .error r) => (e.tell (if isContention r then skippedEvent id r else (Error.ofRefusal r).event), false)

/-- Retries the entries in a list, and parts them into those retried and those skipped. -/
def retryAll (e : Engine) : List EntryId → Engine × List EntryId × List EntryId
  | [] => (e, [], [])
  | id :: rest =>
    let (e, done) := e.retryOne id
    let (e, retried, skipped) := e.retryAll rest
    (e, if done then (id :: retried, skipped) else (retried, id :: skipped))

/-- One pass of the scheduler: drops the cooldowns that have ended, fails the tasks that run
too long, and retries every entry that is eligible in automatic mode. -/
def tick (e : Engine) : Engine × TickReport :=
  let (now, e) := e.now
  let (queue, cooldownsCleared) := e.queue.clearElapsed now
  let (e, timedOut) := { e with queue }.runWatchdog
  let (now, e) := e.now
  let (e, retried, skipped) := e.retryAll (e.queue.eligibleAuto now)
  (e.showQueueDepth, { cooldownsCleared, timedOut, retried, skipped })

/-- The engine as people inspect it. -/
def inspect (e : Engine) : String :=
  "ReindexEngine \x7b runner: " ++ Text.quoted e.runner.name ++ ", tasks: " ++
    Decimal.ofNat e.registry.size ++ ", queue_depth: " ++ Decimal.ofNat e.queue.size ++
    ", execution_timeout: " ++ e.timeout.inspect ++ " \x7d"

end Engine

end Reindexing
