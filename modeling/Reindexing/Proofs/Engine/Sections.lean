import Reindexing.Engine

/-!
# Sections of engine calls

A call of the engine visits the registry and the retry queue one after the other
and holds no lock across both. Each visit is a section: it changes the stores in
one step, with a clock reading, identifiers and a draw of its own, and says which
sections the call has left to do. `Completes` runs sections one after the other;
the last theorem shows that every call of the engine is exactly such a run, so
that what holds of sections in any order holds of the engine.
-/
namespace Reindexing

namespace Engine

/-- The calls that change an engine. -/
inductive Call where
  | submit (c : SubmitCommand)
  | retry (id : EntryId) (c : RetryCommand)
  | recordOutcome (id : TaskId) (reported : Outcome)
  | remove (id : EntryId) (actor : Option String)
  | setRetryMode (id : EntryId) (mode : RetryMode) (actor : String)
  | runWatchdog
  | tick
  deriving DecidableEq, Repr

/-- The engine after a call, whether the call succeeds or not. -/
def perform (e : Engine) : Call → Engine
  | .submit c => (e.submit c).1
  | .retry id c => (e.retry id c).1
  | .recordOutcome id reported => (e.recordOutcome id reported).1
  | .remove id actor => (e.remove id actor).1
  | .setRetryMode id mode actor => (e.setRetryMode id mode actor).1
  | .runWatchdog => e.runWatchdog.1
  | .tick => e.tick.1

end Engine

/-- What calls share: both stores, and the identifiers handed out so far. -/
structure Stores where
  registry : Registry
  queue : Queue
  taskIds : List TaskId
  entryIds : List EntryId

/-- No identifier was handed out twice. -/
def Stores.Distinct (w : Stores) : Prop := w.taskIds.Nodup ∧ w.entryIds.Nodup

instance (w : Stores) : Decidable w.Distinct := inferInstanceAs (Decidable (_ ∧ _))

/-- What one section takes from outside. -/
structure Inputs where
  now : Instant
  taskId : TaskId
  entryId : EntryId
  draw : Nat
  trace : Option TraceLink

/-- What a call does to one of the stores while it holds the lock of that store. -/
inductive Section where
  /-- Creates the task of a submission. -/
  | create (c : SubmitCommand)
  | start (task : TaskId)
  | claim (id : EntryId) (c : RetryCommand)
  /-- Creates the task of a claimed entry. -/
  | resubmit (id : EntryId) (c : RetryCommand) (taken : Claim)
  | release (taken : Claim)
  | attach (id : EntryId) (task : TaskId)
  | report (id : TaskId) (outcome : Outcome)
  | recordRetryFailure (id : EntryId) (failed : Task)
  | enqueue (failed : Task)
  | resolve (id : EntryId)
  | remove (id : EntryId) (actor : Option String)
  | setMode (id : EntryId) (mode : RetryMode) (actor : String)
  | clearCooldowns
  /-- Looks for the tasks that ran too long. -/
  | sweep (timeout : Span)
  /-- Looks for the entries that the scheduler retries. -/
  | scan
  deriving DecidableEq, Repr

namespace Section

/-- What a report leaves to do in the queue. -/
def settlement (done : Task) : List Section :=
  match done.retryOf with
  | some entry => if done.status = .failed then [.recordRetryFailure entry done] else [.resolve entry]
  | none => if done.status = .failed then [.enqueue done] else []

/-- A settlement records the failure of a task, in the entry that it retried or under its label, or
resolves the entry that it retried. -/
theorem mem_settlement {done : Task} {s : Section} (member : s ∈ settlement done) :
    (∃ id, done.retryOf = some id ∧ done.status = .failed ∧ s = .recordRetryFailure id done) ∨
      (∃ id, done.retryOf = some id ∧ s = .resolve id) ∨
      (done.status = .failed ∧ s = .enqueue done) := by
  unfold settlement at member
  split at member
  · next id retried =>
    split at member
    · next failed => exact .inl ⟨id, retried, failed, List.mem_singleton.mp member⟩
    · exact .inr (.inl ⟨id, retried, List.mem_singleton.mp member⟩)
  · split at member
    · next failed => exact .inr (.inr ⟨failed, List.mem_singleton.mp member⟩)
    · cases member

/-- The stores after a section, and the sections that its call does next. -/
def run (x : Inputs) (w : Stores) : Section → Stores × List Section
  | .create c =>
    match w.registry.submit x.taskId ⟨c.scope, c.actor, c.note, x.trace, none⟩ x.now with
    | .error _ => (w, [])
    | .ok (registry, created) =>
      ({ w with registry, taskIds := w.taskIds ++ [x.taskId] }, [.start created.task.id])
  | .start task =>
    match w.registry.markRunning task x.trace x.now with
    | .error _ => (w, [])
    | .ok (registry, _) => ({ w with registry }, [])
  | .claim id c =>
    match w.queue.claim id c.actor c.note c.force x.now with
    | (queue, .error _) => ({ w with queue }, [])
    | (queue, .ok taken) => ({ w with queue }, [.resubmit id c taken])
  | .resubmit id c taken =>
    match w.registry.submit x.taskId ⟨taken.entry.scope, c.actor, c.note, x.trace, some id⟩ x.now with
    | .error _ => (w, [.release taken])
    | .ok (registry, created) =>
      ({ w with registry, taskIds := w.taskIds ++ [x.taskId] }, [.attach id created.task.id])
  | .release taken => ({ w with queue := (w.queue.release taken x.now).1 }, [])
  | .attach id task =>
    match w.queue.attach id task with
    | .error _ => (w, [.start task])
    | .ok queue => ({ w with queue }, [.start task])
  | .report id outcome =>
    match w.registry.recordOutcome id outcome none x.trace x.now with
    | .error _ => (w, [])
    | .ok (registry, finished) => ({ w with registry }, settlement finished.task)
  | .recordRetryFailure id failed =>
    match w.queue.recordRetryFailure id failed x.now x.draw with
    | .error _ => (w, [.enqueue failed])
    | .ok (queue, _) => ({ w with queue }, [])
  | .enqueue failed =>
    match w.queue.enqueue failed .auto x.now x.entryId x.draw with
    | .error _ => (w, [])
    | .ok (queue, m) =>
      ({ w with queue, entryIds := if m.kind = .created then w.entryIds ++ [x.entryId] else w.entryIds }, [])
  | .resolve id => ({ w with queue := (w.queue.resolve id x.now).1 }, [])
  | .remove id actor =>
    match w.queue.remove id actor x.now with
    | .error _ => (w, [])
    | .ok (queue, _) => ({ w with queue }, [])
  | .setMode id mode actor =>
    match w.queue.setMode id mode actor x.now x.draw with
    | .error _ => (w, [])
    | .ok (queue, _) => ({ w with queue }, [])
  | .clearCooldowns => ({ w with queue := (w.queue.clearElapsed x.now).1 }, [])
  | .sweep timeout => (w, (w.registry.timedOut timeout x.now).map (.report · .timeout))
  | .scan =>
    (w, (w.queue.eligibleAuto x.now).map (.claim · ⟨Engine.schedulerActor, none, false⟩))

end Section

/-- The sections with which a call begins. -/
def Engine.Call.sections (timeout : Span) (cap : Nat) : Engine.Call → List Section
  | .submit c => [.create c]
  | .retry id c => [.claim id c]
  | .recordOutcome id reported => [.report id (reported.track cap)]
  | .remove id actor => [.remove id actor]
  | .setRetryMode id mode actor => [.setMode id mode actor]
  | .runWatchdog => [.sweep timeout]
  | .tick => [.clearCooldowns, .sweep timeout, .scan]

/-- Sections run one after the other, each followed at once by what it leaves to do. -/
inductive Completes : Stores → List Section → Stores → Prop where
  | done (w : Stores) : Completes w [] w
  | step {w after : Stores} {s : Section} {rest : List Section} (x : Inputs) :
      Completes (s.run x w).1 ((s.run x w).2 ++ rest) after → Completes w (s :: rest) after

namespace Completes

theorem of_run {w between after : Stores} {s : Section} {next rest : List Section} {x : Inputs}
    (ran : s.run x w = (between, next)) (tail : Completes between (next ++ rest) after) :
    Completes w (s :: rest) after :=
  .step x (by rw [ran]; exact tail)

theorem append {w between after : Stores} {first second : List Section}
    (left : Completes w first between) (right : Completes between second after) :
    Completes w (first ++ second) after := by
  induction left with
  | done => exact right
  | step x _ ih =>
    refine .step x ?_
    have tail := ih right
    rwa [List.append_assoc] at tail

theorem cons {w between after : Stores} {s : Section} {rest : List Section}
    (head : Completes w [s] between) (tail : Completes between rest after) :
    Completes w (s :: rest) after :=
  head.append tail

end Completes

namespace Engine

/-- The stores of an engine. -/
def stores (e : Engine) : Stores where
  registry := e.registry
  queue := e.queue
  taskIds := (List.range e.supply.tasks).map e.supply.taskIds
  entryIds := (List.range e.supply.entries).map e.supply.entryIds

/-- What the engine hands to a section. -/
def inputs (e : Engine) (now : Instant) (trace : Option TraceLink) : Inputs :=
  ⟨now, e.nextTaskId, e.nextEntryId, e.nextDraw, trace⟩

/-! ### What is blind to the work beside the stores -/

section blind
variable {α : Type} (f : Engine → α)

/-- What does not look at the journal stays as it is when a truncation is told. -/
theorem apply_tellTruncation (blind : ∀ (e : Engine) journal, f { e with journal } = f e) (e : Engine)
    (o : Outcome) : f (e.tellTruncation o) = f e := by
  unfold tellTruncation
  split
  · split
    · exact blind e _
    · rfl
  · split
    · exact blind e _
    · rfl
  · rfl

/-- What does not look at the traces stays as it is when a span is opened. -/
theorem apply_openSpan (blind : ∀ (e : Engine) tracing, f { e with tracing } = f e) (e : Engine)
    (span : LogSpan) : f (e.openSpan span).2 = f e := by
  unfold openSpan
  dsimp only
  split
  · exact blind e _
  · rfl

variable (blind : ∀ (e : Engine) audit disk metrics journal,
  f { e with audit, disk, metrics, journal } = f e)
include blind

/-- What looks at nothing that is audited, counted or told stays as it is when a record is appended. -/
theorem apply_record (e : Engine) (record : AuditRecord) : f (e.record record) = f e := by
  unfold Engine.record
  split
  · exact blind e _ _ e.metrics e.journal
  · exact blind e ..

theorem apply_recordMutations (ms : List Mutation) (e : Engine) : f (ms.foldl recordMutation e) = f e := by
  induction ms generalizing e with
  | nil => rfl
  | cons m rest ih => rw [List.foldl_cons, ih, recordMutation, apply_record f blind]

end blind

/-! ### What leaves the stores alone -/

section frame
variable (e : Engine)

@[simp] theorem stores_now : e.now.2.stores = e.stores := rfl
theorem registry_now : e.now.2.registry = e.registry := rfl
theorem queue_now : e.now.2.queue = e.queue := rfl
theorem nextDraw_now : e.now.2.nextDraw = e.nextDraw := rfl
@[simp] theorem stores_tell (event : LogEvent) : (e.tell event).stores = e.stores := rfl
@[simp] theorem stores_mapMetrics (f : Metrics → Metrics) : (e.mapMetrics f).stores = e.stores := rfl
@[simp] theorem stores_countRefusal (r : Refusal) : (e.countRefusal r).stores = e.stores := rfl
@[simp] theorem stores_takeDraw : e.takeDraw.stores = e.stores := rfl
@[simp] theorem stores_showQueueDepth : e.showQueueDepth.stores = e.stores := rfl
@[simp] theorem stores_showRunning : e.showRunning.stores = e.stores := rfl
@[simp] theorem stores_withRegistry (registry : Registry) :
    { e with registry }.stores = { e.stores with registry } := rfl
@[simp] theorem stores_withQueue (queue : Queue) :
    { e with queue }.stores = { e.stores with queue } := rfl
@[simp] theorem stores_withDispatched (dispatched : List Run) :
    { e with dispatched }.stores = e.stores := rfl

@[simp] theorem stores_record (record : AuditRecord) : (e.record record).stores = e.stores :=
  apply_record stores (fun _ _ _ _ _ => rfl) e record

@[simp] theorem stores_recordTransition (t : Transition) :
    (e.recordTransition t).stores = e.stores := e.stores_record _

@[simp] theorem stores_recordMutation (m : Mutation) :
    (e.recordMutation m).stores = e.stores := e.stores_record _

@[simp] theorem stores_tellTruncation (o : Outcome) : (e.tellTruncation o).stores = e.stores :=
  apply_tellTruncation stores (fun _ _ => rfl) e o

@[simp] theorem stores_openSpan (span : LogSpan) : (e.openSpan span).2.stores = e.stores :=
  apply_openSpan stores (fun _ _ => rfl) e span

theorem stores_takeTaskId :
    e.takeTaskId.stores = { e.stores with taskIds := e.stores.taskIds ++ [e.nextTaskId] } := by
  simp [stores, takeTaskId, nextTaskId, List.range_succ]

theorem stores_takeEntryId :
    e.takeEntryId.stores = { e.stores with entryIds := e.stores.entryIds ++ [e.nextEntryId] } := by
  simp [stores, takeEntryId, nextEntryId, List.range_succ]

@[simp] theorem stores_recordMutations (ms : List Mutation) :
    (ms.foldl recordMutation e).stores = e.stores :=
  apply_recordMutations stores (fun _ _ _ _ _ => rfl) ms e

end frame

end Engine

end Reindexing
