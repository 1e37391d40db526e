import Reindexing.Proofs.Engine.Sections
import Reindexing.Proofs.Queue.Operations

/-!
# Calls complete their sections

The operations of the engine interleave their work on the stores with spans,
metrics, audit records and log events. Here each operation is shown to do to the
stores exactly what its sections do one after the other, whether it succeeds or
is refused. The loops of the watchdog and of the scheduler follow by induction
on the identifiers that they go through.
-/
namespace Reindexing.Engine

/-! ### Tasks -/

theorem dispatch_completes (e : Engine) (t : Task) (attempt : Nat) :
    Completes e.stores [.start t.id] (e.dispatch t attempt).1.stores := by
  cases result : e.registry.markRunning t.id t.trace e.now.1 with
  | error r =>
    have ran : (Section.start t.id).run (e.inputs e.now.1 t.trace) e.stores = (e.stores, []) := by
      simp only [Section.run, inputs, stores, result]
    have after : (e.dispatch t attempt).1.stores = e.stores := by
      simp only [dispatch, registry_now, result]
      simp
    rw [after]
    exact .of_run ran (.done _)
  | ok value =>
    obtain ⟨registry, running⟩ := value
    have ran : (Section.start t.id).run (e.inputs e.now.1 t.trace) e.stores =
        ({ e.stores with registry }, []) := by
      simp only [Section.run, inputs, stores, result]
    have after : (e.dispatch t attempt).1.stores = { e.stores with registry } := by
      simp only [dispatch, registry_now, result]
      simp
    rw [after]
    exact .of_run ran (.done _)

/-- The engine after a task was created. -/
theorem create_ok {e : Engine} {s : Submission} {now : Instant} {registry : Registry}
    {created : Transition} (result : e.registry.submit e.nextTaskId s now = .ok (registry, created)) :
    ∃ after, e.create s now = (after, .ok created) ∧
      after.stores = { e.stores with registry, taskIds := e.stores.taskIds ++ [e.nextTaskId] } := by
  refine ⟨({ e with registry }.takeTaskId).tell (submittedEvent created.task), ?_, ?_⟩
  · simp only [create, result]
  · rw [stores_tell, stores_takeTaskId]
    rfl

theorem create_error {e : Engine} {s : Submission} {now : Instant} {r : Refusal}
    (result : e.registry.submit e.nextTaskId s now = .error r) :
    e.create s now = (e.countRefusal r, .error r) := by
  simp only [create, result]

theorem submit_completes (e : Engine) (c : SubmitCommand) :
    Completes e.stores [.create c] (e.submit c).1.stores := by
  have next : e.now.2.nextTaskId = e.nextTaskId := rfl
  cases result : e.registry.submit e.nextTaskId ⟨c.scope, c.actor, c.note, e.link c.traceId, none⟩
      e.now.1 with
  | error r =>
    have ran : (Section.create c).run (e.inputs e.now.1 (e.link c.traceId)) e.stores =
        (e.stores, []) := by
      simp only [Section.run, inputs, stores, result]
    have refused := create_error (e := e.now.2) result
    have after : (e.submit c).1.stores = e.stores := by
      simp only [submit, refused]
      simp
    rw [after]
    exact .of_run ran (.done _)
  | ok value =>
    obtain ⟨registry, created⟩ := value
    obtain ⟨between, accepted, stores_between⟩ := create_ok (e := e.now.2) result
    have ran : (Section.create c).run (e.inputs e.now.1 (e.link c.traceId)) e.stores =
        (between.stores, [.start created.task.id]) := by
      rw [stores_between]
      simp only [Section.run, inputs, stores, result, next]
      rfl
    have tail := dispatch_completes ((between.recordTransition created).mapMetrics
      (·.increment (Metrics.submittedSeries false))) created.task 0
    have after : (e.submit c).1 = (dispatch ((between.recordTransition created).mapMetrics
        (·.increment (Metrics.submittedSeries false))) created.task 0).1 := by
      simp only [submit, accepted]
    rw [stores_mapMetrics, stores_recordTransition] at tail
    rw [after]
    exact .of_run ran tail

/-! ### Outcomes -/

theorem enqueue_completes (e : Engine) (failed : Task) (now : Instant) :
    Completes e.stores [.enqueue failed] (e.enqueue failed now).1.stores := by
  cases result : e.queue.enqueue failed .auto now e.nextEntryId e.nextDraw with
  | error r =>
    have ran : (Section.enqueue failed).run (e.inputs now none) e.stores = (e.stores, []) := by
      simp only [Section.run, inputs, stores, result]
    have after : (e.enqueue failed now).1.stores = e.stores := by
      simp only [enqueue, result]
      simp
    rw [after]
    exact .of_run ran (.done _)
  | ok value =>
    obtain ⟨queue, m⟩ := value
    have ran : (Section.enqueue failed).run (e.inputs now none) e.stores =
        ((e.enqueue failed now).1.stores, []) := by
      simp only [Section.run, inputs, stores, enqueue, result]
      split
      · simp only [tell, takeDraw, takeEntryId, List.range_succ, List.map_append]
        rfl
      · rfl
    exact .of_run ran (.done _)

theorem routeFailure_completes (e : Engine) {failed : Task} (now : Instant)
    (status : failed.status = .failed) :
    Completes e.stores (Section.settlement failed) (e.routeFailure failed now).1.stores := by
  cases retried : failed.retryOf with
  | none =>
    simp only [Section.settlement, routeFailure, retried, status, if_true]
    exact e.enqueue_completes failed now
  | some id =>
    simp only [Section.settlement, routeFailure, retried, status, if_true]
    cases result : e.queue.recordRetryFailure id failed now e.nextDraw with
    | error r =>
      have ran : (Section.recordRetryFailure id failed).run (e.inputs now none) e.stores =
          (e.stores, [.enqueue failed]) := by
        simp only [Section.run, inputs, stores, result]
      exact .of_run ran ((e.countRefusal r).enqueue_completes failed now)
    | ok value =>
      obtain ⟨queue, m⟩ := value
      have ran : (Section.recordRetryFailure id failed).run (e.inputs now none) e.stores =
          ({ e.stores with queue }, []) := by
        simp only [Section.run, inputs, stores, result]
      exact .of_run ran (.done _)

section
variable {e : Engine} {failed : Task} {entry : QueueEntry} {now : Instant}

/-- A retry names the entry that it retries. -/
theorem retryOf_of_own (own : failed.retryOf.bind e.queue.find? = some entry) :
    failed.retryOf = some entry.id ∧ e.queue.find? entry.id = some entry := by
  obtain ⟨id, retried, found⟩ := Option.bind_eq_some_iff.mp own
  obtain rfl : entry.id = id := (Queue.mem_of_find? found).2
  exact ⟨retried, found⟩

/-- A failure that no entry was retried for, or none that is still there, goes under its label. -/
theorem routeFailure_of_free (free : failed.retryOf.bind e.queue.find? = none) (now : Instant) :
    e.routeFailure failed now = e.enqueue failed now ∨
      ∃ r, e.routeFailure failed now = (e.countRefusal r).enqueue failed now := by
  cases retried : failed.retryOf with
  | none => exact .inl (by simp only [routeFailure, retried])
  | some id =>
    have gone : e.queue.find? id = none := by rwa [retried, Option.bind_some] at free
    refine .inr ⟨.entryNotFound id, ?_⟩
    simp only [routeFailure, retried, Queue.recordRetryFailure_eq, gone]

/-- The failure of a retry goes to the entry that was retried. -/
theorem routeFailure_of_own {queue : Queue} {m : Mutation}
    (own : failed.retryOf.bind e.queue.find? = some entry)
    (accepted : e.queue.recordRetryFailure entry.id failed now e.nextDraw = .ok (queue, m)) :
    e.routeFailure failed now = (({ e with queue }.takeDraw).tell (retryFailedEvent m.entry), .ok m) := by
  simp only [routeFailure, (retryOf_of_own own).1, accepted]

end

theorem resolveRetry_completes (e : Engine) {done : Task} (now : Instant)
    (status : done.status ≠ .failed) :
    Completes e.stores (Section.settlement done) (e.resolveRetry done now).stores := by
  cases retried : done.retryOf with
  | none =>
    simp only [Section.settlement, resolveRetry, retried, status, if_false]
    exact .done _
  | some id =>
    have after : (e.resolveRetry done now).stores =
        { e.stores with queue := (e.queue.resolve id now).1 } := by
      simp only [resolveRetry, retried]
      cases result : e.queue.resolve id now with
      | mk queue m => cases m <;> simp
    rw [after]
    simp only [Section.settlement, retried, status, if_false]
    exact .step (e.inputs now none) (.done _)

theorem stores_settleQueue {e : Engine} {done : Task} {now : Instant} (failed : done.status = .failed) :
    (e.settleQueue done now).1.stores = (e.routeFailure done now).1.stores := by
  simp only [settleQueue, failed, if_true]
  cases e.routeFailure done now with
  | mk after result => cases result <;> simp

theorem settleQueue_completes (e : Engine) (done : Task) (now : Instant) :
    Completes e.stores (Section.settlement done) (e.settleQueue done now).1.stores := by
  by_cases status : done.status = .failed
  · rw [stores_settleQueue status]
    exact e.routeFailure_completes now status
  · simp only [settleQueue, status, if_false]
    exact e.resolveRetry_completes now status

@[simp] theorem sampleCap_tellTruncation (e : Engine) (o : Outcome) :
    (e.tellTruncation o).sampleCap = e.sampleCap := by
  unfold tellTruncation
  split
  · split <;> rfl
  · split <;> rfl
  · rfl

@[simp] theorem registry_tellTruncation (e : Engine) (o : Outcome) :
    (e.tellTruncation o).registry = e.registry :=
  congrArg Stores.registry (e.stores_tellTruncation o)

theorem recordOutcome_completes (e : Engine) (id : TaskId) (reported : Outcome) :
    Completes e.stores [.report id (reported.track e.sampleCap)]
      (e.recordOutcome id reported).1.stores := by
  let told := e.tellTruncation reported
  have same : told.now.2.stores = e.stores := e.stores_tellTruncation reported
  have registry_same : told.now.2.registry = e.registry := e.registry_tellTruncation reported
  have cap : told.now.2.sampleCap = e.sampleCap := e.sampleCap_tellTruncation reported
  cases result : e.registry.recordOutcome id (reported.track e.sampleCap) none
      (told.now.2.link none) told.now.1 with
  | error r =>
    have ran : (Section.report id (reported.track e.sampleCap)).run
        (e.inputs told.now.1 (told.now.2.link none)) e.stores = (e.stores, []) := by
      simp only [Section.run, inputs, stores, result]
    have after : (e.recordOutcome id reported).1.stores = e.stores := by
      simp only [recordOutcome, registry_same, cap, result, told, stores_countRefusal]
      exact same
    rw [after]
    exact .of_run ran (.done _)
  | ok value =>
    obtain ⟨registry, finished⟩ := value
    have ran : (Section.report id (reported.track e.sampleCap)).run
        (e.inputs told.now.1 (told.now.2.link none)) e.stores =
          ({ e.stores with registry }, Section.settlement finished.task) := by
      simp only [Section.run, inputs, stores, result]
    let settling := (({ told.now.2 with registry }.tell
      (finishedEvent finished.task)).recordTransition finished).mapMetrics
        (·.countFinished finished.task.status finished.task.durationMillis)
    have between : settling.stores = { e.stores with registry } := by
      simp only [settling, stores_mapMetrics, stores_recordTransition, stores_tell,
        stores_withRegistry, same]
    have after : (e.recordOutcome id reported).1.stores =
        (settling.settleQueue finished.task told.now.1).1.stores := by
      simp only [recordOutcome, registry_same, cap, result, told, settling]
      split <;> simp [*]
    have tail := settling.settleQueue_completes finished.task told.now.1
    rw [between] at tail
    rw [after]
    exact .of_run ran (by simpa using tail)

/-! ### Retry queue -/

theorem claim_ok {e : Engine} {id : EntryId} {c : RetryCommand} {now : Instant} {queue : Queue}
    {taken : Claim} (result : e.queue.claim id c.actor c.note c.force now = (queue, .ok taken)) :
    ∃ after, e.claim id c now = (after, .ok taken) ∧ after.stores = { e.stores with queue } := by
  refine ⟨taken.mutations.foldl recordMutation
    ({ e with queue }.tell (claimedEvent taken c.actor c.force)), ?_, ?_⟩
  · simp only [Engine.claim, result]
  · simp

theorem release_completes (e : Engine) (taken : Claim) (now : Instant) :
    Completes e.stores [.release taken] (e.release taken now).stores := by
  have after : (e.release taken now).stores =
      { e.stores with queue := (e.queue.release taken now).1 } := by
    simp only [Engine.release]
    cases e.queue.release taken now with
    | mk queue m => cases m <;> simp
  rw [after]
  exact .step (e.inputs now none) (.done _)

/-- The engine goes on whether or not the entry was still there. -/
theorem run_attach (e : Engine) (id : EntryId) (task : TaskId) (x : Inputs) :
    (Section.attach id task).run x e.stores = ((e.attach id task).stores, [.start task]) := by
  simp only [Section.run, Engine.attach, stores]
  cases e.queue.attach id task <;> rfl

/-- A retry that has claimed its entry resubmits the scope or rolls the claim back. -/
theorem resubmit_completes {e holding : Engine} {id : EntryId} {c : RetryCommand} {taken : Claim}
    (claims : e.now.2.claim id c e.now.1 = (holding, .ok taken)) :
    Completes holding.stores [.resubmit id c taken] (e.retry id c).1.stores := by
  cases result : holding.registry.submit holding.nextTaskId
      ⟨taken.entry.scope, c.actor, c.note, holding.link none, some id⟩ e.now.1 with
  | error r =>
    have refused := create_error result
    have ran : (Section.resubmit id c taken).run (holding.inputs e.now.1 (holding.link none))
        holding.stores = (holding.stores, [.release taken]) := by
      simp only [Section.run, inputs, stores, result]
    have after : (e.retry id c).1 = (holding.countRefusal r).release taken e.now.1 := by
      simp only [retry, claims, refused]
    rw [after]
    exact .of_run ran ((holding.countRefusal r).release_completes taken e.now.1)
  | ok value =>
    obtain ⟨registry, created⟩ := value
    obtain ⟨between, accepted, stores_between⟩ := create_ok result
    have ran : (Section.resubmit id c taken).run (holding.inputs e.now.1 (holding.link none))
        holding.stores = (between.stores, [.attach id created.task.id]) := by
      rw [stores_between]
      simp only [Section.run, inputs, stores, result]
    refine .of_run ran ?_
    let counted := (between.recordTransition created).mapMetrics fun m =>
      (m.increment (Metrics.submittedSeries true)).increment
        (Metrics.retriesSeries taken.entry.mode)
    have counts : counted.stores = between.stores := by simp [counted]
    have after : (e.retry id c).1.stores =
        ((counted.attach id created.task.id).dispatch created.task
          taken.entry.attempts).1.stores := by
      simp only [retry, claims, accepted, counted]
      split <;> simp [*]
    rw [after, ← counts]
    exact .of_run (x := counted.inputs e.now.1 none)
      (counted.run_attach id created.task.id _) (dispatch_completes _ _ _)

theorem retry_completes (e : Engine) (id : EntryId) (c : RetryCommand) :
    Completes e.stores [.claim id c] (e.retry id c).1.stores := by
  cases claimed : e.queue.claim id c.actor c.note c.force e.now.1 with
  | mk queue answer =>
    cases answer with
    | error r =>
      have ran : (Section.claim id c).run (e.inputs e.now.1 none) e.stores =
          ({ e.stores with queue }, []) := by
        simp only [Section.run, inputs, stores, claimed]
      have after : (e.retry id c).1.stores = { e.stores with queue } := by
        simp only [retry, Engine.claim, queue_now, claimed]
        simp
      rw [after]
      exact .of_run ran (.done _)
    | ok taken =>
      obtain ⟨holding, claims, stores_holding⟩ := claim_ok (e := e.now.2) claimed
      have ran : (Section.claim id c).run (e.inputs e.now.1 none) e.stores =
          (holding.stores, [.resubmit id c taken]) := by
        rw [stores_holding]
        simp only [Section.run, inputs, stores, claimed]
        rfl
      exact .of_run ran (resubmit_completes claims)

theorem remove_completes (e : Engine) (id : EntryId) (actor : Option String) :
    Completes e.stores [.remove id actor] (e.remove id actor).1.stores := by
  have ran : (Section.remove id actor).run (e.inputs e.now.1 none) e.stores =
      ((e.remove id actor).1.stores, []) := by
    have queue : e.stores.queue = e.queue := rfl
    simp only [Section.run, Engine.remove, inputs, queue_now, queue]
    cases e.queue.remove id actor e.now.1 <;> simp
  exact .of_run ran (.done _)

theorem setRetryMode_completes (e : Engine) (id : EntryId) (mode : RetryMode) (actor : String) :
    Completes e.stores [.setMode id mode actor] (e.setRetryMode id mode actor).1.stores := by
  have ran : (Section.setMode id mode actor).run (e.inputs e.now.1 none) e.stores =
      ((e.setRetryMode id mode actor).1.stores, []) := by
    have queue : e.stores.queue = e.queue := rfl
    simp only [Section.run, Engine.setRetryMode, inputs, queue_now, nextDraw_now, queue]
    cases e.queue.setMode id mode actor e.now.1 e.nextDraw <;> simp
  exact .of_run ran (.done _)

/-! ### Scheduling -/

theorem timeOut_completes (e : Engine) (id : TaskId) :
    Completes e.stores [.report id .timeout] (e.timeOut id).1.stores := by
  have after : (e.timeOut id).1.stores = (e.recordOutcome id .timeout).1.stores := by
    unfold timeOut
    split <;> simp [*]
  rw [after]
  exact e.recordOutcome_completes id .timeout

theorem timeOutAll_completes (e : Engine) (ids : List TaskId) :
    Completes e.stores (ids.map (.report · .timeout)) (e.timeOutAll ids).1.stores := by
  induction ids generalizing e with
  | nil => exact .done _
  | cons id rest ih => exact (e.timeOut_completes id).cons (ih (e.timeOut id).1)

theorem runWatchdog_completes (e : Engine) :
    Completes e.stores [.sweep e.timeout] e.runWatchdog.1.stores := by
  have tail := e.now.2.timeOutAll_completes (e.registry.timedOut e.timeout e.now.1)
  exact .of_run (x := e.inputs e.now.1 none) rfl (by rw [List.append_nil]; exact tail)

theorem retryOne_completes (e : Engine) (id : EntryId) :
    Completes e.stores [.claim id ⟨schedulerActor, none, false⟩] (e.retryOne id).1.stores := by
  have after : (e.retryOne id).1.stores =
      (e.retry id ⟨schedulerActor, none, false⟩).1.stores := by
    unfold retryOne
    split <;> simp [*]
  rw [after]
  exact e.retry_completes id ⟨schedulerActor, none, false⟩

theorem retryAll_completes (e : Engine) (ids : List EntryId) :
    Completes e.stores (ids.map (.claim · ⟨schedulerActor, none, false⟩))
      (e.retryAll ids).1.stores := by
  induction ids generalizing e with
  | nil => exact .done _
  | cons id rest ih => exact (e.retryOne_completes id).cons (ih (e.retryOne id).1)

theorem tick_completes (e : Engine) :
    Completes e.stores [.clearCooldowns, .sweep e.timeout, .scan] e.tick.1.stores := by
  let cleared : Engine := { e.now.2 with queue := (e.queue.clearElapsed e.now.1).1 }
  let swept : Engine := cleared.runWatchdog.1
  have clears : Completes e.stores [.clearCooldowns] cleared.stores :=
    .step (e.inputs e.now.1 none) (.done _)
  have sweeps : Completes cleared.stores [.sweep e.timeout] swept.stores :=
    cleared.runWatchdog_completes
  have scans : Completes swept.stores [.scan] e.tick.1.stores := by
    have tail := swept.now.2.retryAll_completes (swept.queue.eligibleAuto swept.now.1)
    exact .of_run (x := swept.inputs swept.now.1 none) rfl (by rw [List.append_nil]; exact tail)
  exact clears.cons (sweeps.cons scans)

/-- A call of the engine does to the stores what its sections do in sequence. -/
theorem perform_completes (e : Engine) (c : Call) :
    Completes e.stores (c.sections e.timeout e.sampleCap) (e.perform c).stores := by
  cases c with
  | submit c => exact e.submit_completes c
  | retry id c => exact e.retry_completes id c
  | recordOutcome id reported => exact e.recordOutcome_completes id reported
  | remove id actor => exact e.remove_completes id actor
  | setRetryMode id mode actor => exact e.setRetryMode_completes id mode actor
  | runWatchdog => exact e.runWatchdog_completes
  | tick => exact e.tick_completes

end Reindexing.Engine
