import Reindexing.Proofs.Engine.Retrying
import Reindexing.Proofs.Metrics

/-!
# Metrics of an engine

Counters are incremented and gauges set by hand, in the middle of calls that may
fail later on. Each step of a call changes the panel of the engine in one way or not
at all. Within a call the panel is exact again after every transition of a task,
except that the gauges follow a report once its outcome is settled; no report fails
before that. So the panel of every engine is exact between calls.
-/
namespace Reindexing

/-! ### Sizes of queues -/

namespace Queue

variable (q : Queue) (id : EntryId) (now : Instant)

@[simp] theorem size_replace (entry : QueueEntry) : (q.replace entry).size = q.size := List.length_map ..

@[simp] theorem size_clearElapsed : (q.clearElapsed now).1.size = q.size := List.length_map ..

theorem size_claim (actor : String) (note : Option String) (force : Bool) :
    (q.claim id actor note force now).1.size = q.size := by
  unfold claim
  split
  · rfl
  · split
    · rfl
    · dsimp only
      split
      · exact q.size_replace _
      · exact q.size_replace _

theorem size_release (taken : Claim) : (q.release taken now).1.size = q.size := by
  unfold release
  split
  · rfl
  · exact q.size_replace _

theorem size_attach {task : TaskId} {after : Queue} (success : q.attach id task = .ok after) :
    after.size = q.size := by
  unfold attach at success
  cases found : q.get id with
  | error r => simp [found, bind, Except.bind] at success
  | ok entry =>
    simp only [found, bind, Except.bind, pure, Except.pure, Except.ok.injEq] at success
    rw [← success, size_replace]

end Queue

/-! ### What changes the panel of an engine -/

namespace Engine

def panel (e : Engine) : Panel where
  dials d := e.metrics.counter d.series
  depth := e.metrics.gauge Metrics.queueDepthName
  running := e.metrics.gauge Metrics.runningName
  tasks := e.registry.tasks
  size := e.queue.size

section frame
variable (e : Engine)

@[simp] theorem panel_now : e.now.2.panel = e.panel := rfl
@[simp] theorem panel_tell (event : LogEvent) : (e.tell event).panel = e.panel := rfl
@[simp] theorem panel_takeTaskId : e.takeTaskId.panel = e.panel := rfl
@[simp] theorem panel_takeEntryId : e.takeEntryId.panel = e.panel := rfl
@[simp] theorem panel_takeDraw : e.takeDraw.panel = e.panel := rfl
@[simp] theorem panel_withQueue (queue : Queue) :
    { e with queue }.panel = { e.panel with size := queue.size } := rfl
@[simp] theorem panel_withRegistry (registry : Registry) :
    { e with registry }.panel = { e.panel with tasks := registry.tasks } := rfl
@[simp] theorem panel_withDispatched (dispatched : List Run) : { e with dispatched }.panel = e.panel := rfl

theorem panel_increment (d : Dial) : (e.mapMetrics (·.increment d.series)).panel = e.panel.bump d := by
  have dials : ∀ other : Dial, (e.metrics.increment d.series).counter other.series =
      e.metrics.counter other.series + if other = d then 1 else 0 := by
    intro other
    simp only [Metrics.counter_increment, Dial.series_inj]
  exact congrArg (fun dials => { e.panel with dials }) (funext dials)

theorem panel_countFinished (status : TaskStatus) (millis : Option Int) :
    (e.mapMetrics (·.countFinished status millis)).panel = e.panel.bump (.finished status) := by
  rw [← panel_increment]
  cases millis <;> rfl

@[simp] theorem panel_count (error : Error) : (e.count error).panel = e.panel := by
  have dials : ∀ d : Dial,
      (e.metrics.countError error.code).counter d.series = e.metrics.counter d.series := by
    intro d
    simp [Metrics.countError, Metrics.counter_increment, d.series_ne_errors]
  exact congrArg (fun dials => { e.panel with dials }) (funext dials)

@[simp] theorem panel_countRefusal (r : Refusal) : (e.countRefusal r).panel = e.panel := e.panel_count _

@[simp] theorem panel_showQueueDepth : e.showQueueDepth.panel = e.panel.showDepth := by
  have other : Metrics.runningName ≠ Metrics.queueDepthName := by decide
  simp [panel, Panel.showDepth, showQueueDepth, mapMetrics, Metrics.gauge_setGauge, other]
  rfl

@[simp] theorem panel_showRunning : e.showRunning.panel = e.panel.showRunning := by
  have other : Metrics.queueDepthName ≠ Metrics.runningName := by decide
  simp [panel, Panel.showRunning, showRunning, mapMetrics, Metrics.gauge_setGauge, other,
    Registry.countByStatus, List.countP_eq_length_filter]
  rfl

@[simp] theorem panel_record (record : AuditRecord) : (e.record record).panel = e.panel := by
  unfold Engine.record
  split
  · rfl
  · rw [panel_tell, panel_count]
    rfl

@[simp] theorem panel_recordTransition (t : Transition) : (e.recordTransition t).panel = e.panel :=
  e.panel_record _

@[simp] theorem panel_recordMutation (m : Mutation) : (e.recordMutation m).panel = e.panel :=
  e.panel_record _

@[simp] theorem panel_recordMutations (ms : List Mutation) : (ms.foldl recordMutation e).panel = e.panel := by
  induction ms generalizing e with
  | nil => rfl
  | cons m rest ih => rw [List.foldl_cons, ih, panel_recordMutation]

@[simp] theorem panel_openSpan (span : LogSpan) : (e.openSpan span).2.panel = e.panel :=
  apply_openSpan panel (fun _ _ => rfl) e span

@[simp] theorem panel_tellTruncation (o : Outcome) : (e.tellTruncation o).panel = e.panel :=
  apply_tellTruncation panel (fun _ _ => rfl) e o

theorem panel_claim (id : EntryId) (c : RetryCommand) (now : Instant) :
    (e.claim id c now).1.panel = e.panel := by
  have size := e.queue.size_claim id now c.actor c.note c.force
  unfold Engine.claim
  split
  · next queue r result =>
    rw [result] at size
    rw [panel_countRefusal, panel_withQueue, size]
    rfl
  · next queue taken result =>
    rw [result] at size
    rw [panel_recordMutations, panel_tell, panel_withQueue, size]
    rfl

theorem panel_release (taken : Claim) (now : Instant) : (e.release taken now).panel = e.panel := by
  have size := e.queue.size_release now taken
  unfold Engine.release
  split
  · next queue m result =>
    rw [result] at size
    rw [panel_recordMutation, panel_withQueue, size]
    rfl
  · next queue result =>
    rw [result] at size
    rw [panel_withQueue, size]
    rfl

theorem panel_attach (id : EntryId) (task : TaskId) : (e.attach id task).panel = e.panel := by
  unfold Engine.attach
  split
  · next queue result =>
    rw [panel_withQueue, e.queue.size_attach id result]
    rfl
  · exact e.panel_countRefusal _

theorem panel_counted (created : Transition) (mode : RetryMode) :
    (e.counted created mode).panel = (e.panel.bump (.submitted true)).bump (.retries mode) := by
  rw [← e.panel_recordTransition created, ← panel_increment _ (.submitted true),
    ← panel_increment _ (.retries mode)]
  rfl

end frame

/-- Nothing but the size of the queue changes on the panel. -/
def Resizes (e after : Engine) : Prop := after.panel = { e.panel with size := after.queue.size }

variable {e between after : Engine}

namespace Resizes

theorem of_panel (same : after.panel = e.panel) : e.Resizes after := by
  have size : after.queue.size = e.queue.size := congrArg Panel.size same
  rw [Resizes, same, size]
  rfl

theorem withQueue (e : Engine) (queue : Queue) : e.Resizes { e with queue } := rfl

theorem trans (first : e.Resizes between) (second : between.Resizes after) : e.Resizes after := by
  rw [Resizes, second, first]

end Resizes

theorem enqueue_resizes (e : Engine) (failed : Task) (now : Instant) : e.Resizes (e.enqueue failed now).1 := by
  unfold Engine.enqueue
  split
  · exact .of_panel (by simp)
  · next queue m _ =>
    refine (Resizes.withQueue e queue).trans (.of_panel ?_)
    dsimp only
    split <;> simp

theorem routeFailure_resizes (e : Engine) (failed : Task) (now : Instant) :
    e.Resizes (e.routeFailure failed now).1 := by
  unfold routeFailure
  split
  · exact e.enqueue_resizes failed now
  · split
    · next queue m _ => exact (Resizes.withQueue e queue).trans (.of_panel (by simp))
    · next r _ => exact (Resizes.of_panel (e.panel_countRefusal r)).trans (enqueue_resizes _ failed now)

theorem resolveRetry_resizes (e : Engine) (done : Task) (now : Instant) :
    e.Resizes (e.resolveRetry done now) := by
  unfold resolveRetry
  split
  · exact .of_panel rfl
  · split
    · next queue m _ => exact (Resizes.withQueue e queue).trans (.of_panel (by simp))
    · next queue _ => exact .withQueue e queue

theorem settleQueue_resizes (e : Engine) (done : Task) (now : Instant) :
    e.Resizes (e.settleQueue done now).1 := by
  have routes := e.routeFailure_resizes done now
  unfold settleQueue
  split
  · split
    · next after r result => rwa [result] at routes
    · next after m result =>
      rw [result] at routes
      exact routes.trans (.of_panel (after.panel_recordMutation m))
  · exact e.resolveRetry_resizes done now

/-! ### Calls -/

/-- The tasks that passes of the watchdog name in a call. -/
def timedOut (e : Engine) : Call → List TaskId
  | .submit _ | .retry .. | .recordOutcome .. | .remove .. | .setRetryMode .. => []
  | .runWatchdog => e.runWatchdog.2
  | .tick => e.tick.2.timedOut

section
variable {n : Nat}

theorem panel_create {s : Submission} {now : Instant} {registry : Registry} {created : Transition}
    (result : e.registry.submit e.nextTaskId s now = .ok (registry, created)) :
    (e.create s now).1.panel = { e.panel with tasks := registry.tasks } := by
  simp only [create, result, panel_tell, panel_takeTaskId, panel_withRegistry]

/-- A created task may be dispatched: whether it starts or not, the panel stays exact. -/
theorem dispatch_exact (exact : e.panel.Exact n) (t : Task) (attempt : Nat) :
    (e.dispatch t attempt).1.panel.Exact n := by
  cases result : e.registry.markRunning t.id t.trace e.now.1 with
  | error r =>
    simp only [dispatch, registry_now, result, panel_countRefusal, panel_now]
    exact exact
  | ok value =>
    obtain ⟨waiting, found, waits, same⟩ := Registry.markRunning_ok result
    simp only [dispatch, registry_now, result, panel_withDispatched, panel_openSpan, panel_showRunning,
      panel_recordTransition, panel_withRegistry, panel_now]
    rw [show value.1 = _ from congrArg Prod.fst same]
    exact exact.start (Registry.mem_of_find? found).1 waits

/-- A task that was submitted may be counted. -/
theorem create_exact (exact : e.panel.Exact n) {id : TaskId} {s : Submission} {now : Instant}
    {registry : Registry} {created : Transition}
    (result : e.registry.submit id s now = .ok (registry, created))
    (fresh : ∀ u ∈ e.registry.tasks, u.id ≠ id) (mode : RetryMode) : (e.panel.create created.task mode).Exact n := by
  obtain ⟨_, rfl, _⟩ := Registry.submit_ok_iff.mp result
  refine exact.create ?_ (Registry.newTask_waiting ..) mode
  rw [Registry.newTask_id]
  exact fresh

theorem submit_exact (coherent : Coherent e.stores.view []) (exact : e.panel.Exact n) (c : SubmitCommand)
    (distinct : (e.submit c).1.stores.Distinct) : (e.submit c).1.panel.Exact n := by
  cases result : e.registry.submit e.nextTaskId ⟨c.scope, c.actor, c.note, e.link c.traceId, none⟩ e.now.1 with
  | error r =>
    have refused := create_error (e := e.now.2) result
    have after : (e.submit c).1.panel = e.panel := by
      simp only [submit, refused, panel_countRefusal, panel_now]
    rwa [after]
  | ok value =>
    obtain ⟨between, creates, stores⟩ := create_ok (e := e.now.2) result
    have held := panel_create (e := e.now.2) result
    rw [creates] at held
    let ready := (between.recordTransition value.2).mapMetrics (·.increment (Metrics.submittedSeries false))
    have dispatches : e.submit c = ready.dispatch value.2.task 0 := by simp only [submit, creates, ready]
    have issued : ready.stores.taskIds = e.stores.taskIds ++ [e.nextTaskId] := by
      simp only [ready, stores_mapMetrics, stores_recordTransition, stores]
      rfl
    have counted : ready.panel = e.panel.create value.2.task .auto := by
      obtain ⟨_, created, tasks⟩ := Registry.submit_ok_iff.mp result
      have bumped : ready.panel = between.panel.bump (.submitted false) := by
        rw [← between.panel_recordTransition value.2]
        exact panel_increment _ (.submitted false)
      have plain : value.2.task.retryOf = none := by rw [created, Registry.newTask_retryOf]
      rw [bumped, held, tasks]
      simp only [Panel.create, plain, Option.isSome_none, Bool.false_eq_true, if_false]
      rfl
    rw [dispatches] at distinct ⊢
    have fresh := fresh_of_dispatch coherent issued distinct
    exact dispatch_exact (counted ▸ create_exact exact result fresh .auto) value.2.task 0

/-- A retry that has created its task counts it before the task is named and dispatched. -/
theorem retry_exact_of_created (coherent : Coherent e.stores.view []) (exact : e.panel.Exact n) {id : EntryId}
    {c : RetryCommand} {taken : Claim} {holding : Engine} {queue : Queue} {registry : Registry}
    {created : Transition} (claims : e.now.2.claim id c e.now.1 = (holding, .ok taken))
    (stores : holding.stores = { e.stores with queue }) (held : holding.panel = e.panel)
    (result : holding.registry.submit holding.nextTaskId
      ⟨taken.entry.scope, c.actor, c.note, holding.link none, some id⟩ e.now.1 = .ok (registry, created))
    (distinct : (e.retry id c).1.stores.Distinct) : (e.retry id c).1.panel.Exact n := by
  have registry_eq : holding.registry = e.registry := congrArg Stores.registry stores
  obtain ⟨between, creates, stores_between⟩ := create_ok result
  have held_between := panel_create result
  rw [creates, held] at held_between
  let ready := (between.counted created taken.entry.mode).attach id created.task.id
  let dispatched := (ready.dispatch created.task taken.entry.attempts).1
  have counted : ready.panel = e.panel.create created.task taken.entry.mode := by
    obtain ⟨_, task, tasks⟩ := Registry.submit_ok_iff.mp result
    have retried : created.task.retryOf = some id := by rw [task, Registry.newTask_retryOf]
    rw [panel_attach, panel_counted, held_between, tasks, registry_eq]
    simp only [Panel.create, retried, Option.isSome_some, if_true]
    rfl
  have issued : ready.stores.taskIds = e.stores.taskIds ++ [holding.nextTaskId] := by
    rw [taskIds_attach, stores_counted, stores_between, stores]
  obtain ⟨panel, after⟩ : (e.retry id c).1.panel = dispatched.panel ∧
      (e.retry id c).1.stores = dispatched.stores := by
    rcases retry_dispatches claims creates with same | ⟨event, same⟩ <;> rw [same] <;> exact ⟨rfl, rfl⟩
  rw [after] at distinct
  rw [panel]
  have fresh := fresh_of_dispatch coherent issued distinct
  exact dispatch_exact (counted ▸ create_exact exact (registry_eq ▸ result) fresh _) _ _

theorem retry_exact (coherent : Coherent e.stores.view []) (exact : e.panel.Exact n) (id : EntryId)
    (c : RetryCommand) (distinct : (e.retry id c).1.stores.Distinct) : (e.retry id c).1.panel.Exact n := by
  have held := e.now.2.panel_claim id c e.now.1
  cases claimed : e.queue.claim id c.actor c.note c.force e.now.1 with
  | mk queue answer =>
    cases answer with
    | error r =>
      have after : (e.retry id c).1 = (e.now.2.claim id c e.now.1).1 := by
        simp only [retry, Engine.claim, queue_now, claimed]
      rwa [after, held]
    | ok taken =>
      obtain ⟨holding, claims, stores⟩ := claim_ok (e := e.now.2) claimed
      rw [claims] at held
      cases result : holding.registry.submit holding.nextTaskId
          ⟨taken.entry.scope, c.actor, c.note, holding.link none, some id⟩ e.now.1 with
      | error r =>
        have refused := create_error result
        have after : (e.retry id c).1.panel = e.panel := by
          simp only [retry, claims, refused, panel_release, panel_countRefusal]
          exact held
        rwa [after]
      | ok value => exact retry_exact_of_created coherent exact claims stores held result distinct

theorem panel_settling (e : Engine) (reported : Outcome) (registry : Registry) (finished : Transition) :
    (e.settling reported registry finished).panel =
      { e.panel with tasks := registry.tasks }.bump (.finished finished.task.status) := by
  simp only [settling, panel_countFinished, panel_recordTransition, panel_tell, panel_withRegistry,
    panel_now, panel_tellTruncation]

/-- A report that ends its task also settles it, and only then sets the gauges. -/
theorem recordOutcome_exact (coherent : Coherent e.stores.view []) (exact : e.panel.Exact n) (id : TaskId)
    (reported : Outcome) (distinct : (e.recordOutcome id reported).1.stores.Distinct) :
    (e.recordOutcome id reported).1.panel.Exact n := by
  rcases e.recordOutcome_cases id reported with ⟨r, refused⟩ | ⟨registry, finished, ends, settles⟩
  · rw [refused, panel_countRefusal, panel_now, panel_tellTruncation]
    exact exact
  · have resizes := (e.settling reported registry finished).settleQueue_resizes finished.task e.now.1
    obtain ⟨after, accepted⟩ := settles.accepted coherent distinct
    cases settled : (e.settling reported registry finished).settleQueue finished.task e.now.1 with
    | mk last answer =>
      cases answer with
      | error r =>
        rw [settles.refuses last r settled] at accepted
        cases accepted
      | ok =>
        obtain ⟨t, found, running, same⟩ := Registry.recordOutcome_ok ends
        obtain ⟨rfl, rfl⟩ := Prod.mk.inj same
        rw [settled] at resizes
        rw [settles.accepts last settled, panel_showRunning, panel_showQueueDepth,
          show last.panel = _ from resizes, panel_settling, Task.ended_status]
        exact exact.finish (Registry.mem_of_find? found).1 running _ last.queue.size

theorem remove_exact (exact : e.panel.Exact n) (id : EntryId) (actor : Option String) :
    (e.remove id actor).1.panel.Exact n := by
  unfold Engine.remove
  dsimp only
  split
  · rwa [panel_countRefusal]
  · next queue m _ =>
    rw [panel_showQueueDepth, panel_recordMutation, panel_tell]
    exact exact.resize queue.size

theorem setRetryMode_exact (exact : e.panel.Exact n) (id : EntryId) (mode : RetryMode) (actor : String) :
    (e.setRetryMode id mode actor).1.panel.Exact n := by
  have after : (e.setRetryMode id mode actor).1.panel = e.panel := by
    cases found : e.queue.find? id with
    | none =>
      simp only [Engine.setRetryMode, queue_now, Queue.setMode_eq, found, panel_countRefusal, panel_now]
    | some entry =>
      simp only [Engine.setRetryMode, queue_now, Queue.setMode_eq, found, panel_recordMutation, panel_tell,
        panel_takeDraw, panel_withQueue, Queue.size_replace]
      rfl
  rwa [after]

/-! ### Scheduling -/

theorem timeOut_exact (coherent : Coherent e.stores.view []) (exact : e.panel.Exact n) (id : TaskId)
    (distinct : (e.timeOut id).1.stores.Distinct) :
    (e.timeOut id).1.panel.Exact (n + if (e.timeOut id).2 then 1 else 0) := by
  rw [stores_timeOut] at distinct
  have reported := recordOutcome_exact coherent exact id .timeout distinct
  unfold timeOut
  split
  · next after _ result =>
    rw [result] at reported
    have counted : ((after.tell (timeoutEvent id after.timeout)).mapMetrics
        (·.increment Metrics.timeoutsSeries)).panel = after.panel.bump .timeouts := panel_increment _ .timeouts
    rw [counted]
    exact reported.timeOut
  · next result => rwa [result] at reported
  · next result => rwa [result] at reported

theorem timeOutAll_exact (coherent : Coherent e.stores.view []) (exact : e.panel.Exact n) (ids : List TaskId)
    (distinct : (e.timeOutAll ids).1.stores.Distinct) :
    (e.timeOutAll ids).1.panel.Exact (n + (e.timeOutAll ids).2.length) := by
  induction ids generalizing e n with
  | nil => exact exact
  | cons id rest ih =>
    have distinct_first := ((e.timeOut id).1.timeOutAll_completes rest).distinct_before distinct
    have first := timeOut_exact coherent exact id distinct_first
    have coherent_first := (e.timeOut_completes id).coherent (coherent.open_section rfl) distinct_first
    have both := ih coherent_first first distinct
    rcases flag : (e.timeOut id).2 with _ | _ <;>
      simpa [timeOutAll, flag, Nat.add_assoc, Nat.add_comm 1] using both

theorem runWatchdog_exact (coherent : Coherent e.stores.view []) (exact : e.panel.Exact n)
    (distinct : e.runWatchdog.1.stores.Distinct) :
    e.runWatchdog.1.panel.Exact (n + e.runWatchdog.2.length) :=
  timeOutAll_exact (e := e.now.2) coherent exact _ distinct

theorem retryOne_exact (coherent : Coherent e.stores.view []) (exact : e.panel.Exact n) (id : EntryId)
    (distinct : (e.retryOne id).1.stores.Distinct) : (e.retryOne id).1.panel.Exact n := by
  rw [stores_retryOne] at distinct
  have retried := retry_exact coherent exact id ⟨schedulerActor, none, false⟩ distinct
  unfold retryOne
  split <;> next result => rwa [result] at retried

theorem retryAll_exact (coherent : Coherent e.stores.view []) (exact : e.panel.Exact n) (ids : List EntryId)
    (distinct : (e.retryAll ids).1.stores.Distinct) : (e.retryAll ids).1.panel.Exact n := by
  induction ids generalizing e with
  | nil => exact exact
  | cons id rest ih =>
    have distinct_first := ((e.retryOne id).1.retryAll_completes rest).distinct_before distinct
    have coherent_first := (e.retryOne_completes id).coherent (coherent.open_section rfl) distinct_first
    exact ih coherent_first (retryOne_exact coherent exact id distinct_first) distinct

theorem tick_exact (sound : e.Sound) (exact : e.panel.Exact n) (distinct : e.tick.1.stores.Distinct) :
    e.tick.1.panel.Exact (n + e.tick.2.timedOut.length) := by
  have distinct_swept := distinct_swept distinct
  have sound_cleared := sound.cleared (e.swept_completes.distinct_before distinct_swept)
  have cleared : e.cleared.panel = e.panel := by
    rw [Engine.cleared, panel_withQueue, Queue.size_clearElapsed, panel_now]
    rfl
  have swept := runWatchdog_exact sound_cleared.coherent (cleared ▸ exact) distinct_swept
  have coherent_swept := (sound.swept distinct_swept).coherent
  have retried := retryAll_exact (e := e.swept.now.2) coherent_swept swept e.due distinct
  have shown : e.tick.1.panel = (e.swept.now.2.retryAll e.due).1.panel.showDepth := panel_showQueueDepth _
  rw [shown]
  exact retried.resize _

theorem perform_exact (sound : e.Sound) (exact : e.panel.Exact n) (c : Call)
    (distinct : (e.perform c).supply.Distinct) : (e.perform c).panel.Exact (n + (e.timedOut c).length) := by
  cases c with
  | submit c => exact submit_exact sound.coherent exact c distinct
  | retry id c => exact retry_exact sound.coherent exact id c distinct
  | recordOutcome id reported => exact recordOutcome_exact sound.coherent exact id reported distinct
  | remove id actor => exact remove_exact exact id actor
  | setRetryMode id mode actor => exact setRetryMode_exact exact id mode actor
  | runWatchdog => exact runWatchdog_exact sound.coherent exact distinct
  | tick => exact tick_exact sound exact distinct

end

/-! ### Runs -/

/-- What goes on beside the calls without counting tasks or setting a gauge of theirs. -/
structure Quiet (e after : Engine) : Prop extends Aside e after where
  panel : after.panel = e.panel

theorem count_quiet (e : Engine) (error : Error) : e.Quiet (e.count error) :=
  ⟨⟨rfl, rfl, rfl, rfl⟩, e.panel_count error⟩

theorem answer_quiet {α : Type} (e : Engine) (r : Except Refusal α) : e.Quiet (e.answer r).1 := by
  cases r with
  | ok a => exact ⟨⟨rfl, rfl, rfl, rfl⟩, rfl⟩
  | error r => exact e.count_quiet _

theorem queueEntry_quiet (e : Engine) (id : EntryId) : e.Quiet (e.queueEntry id).1 := by
  unfold queueEntry
  split
  · exact e.count_quiet _
  · exact ⟨⟨rfl, rfl, rfl, rfl⟩, rfl⟩

theorem listQueue_quiet (e : Engine) (filter : QueueFilter) : e.Quiet (e.listQueue filter).1 :=
  ⟨⟨rfl, rfl, rfl, rfl⟩, rfl⟩

theorem tellAll_quiet (e : Engine) (events : List LogEvent) : e.Quiet (events.foldl tell e) := by
  induction events generalizing e with
  | nil => exact ⟨⟨rfl, rfl, rfl, rfl⟩, rfl⟩
  | cons event rest ih =>
    obtain ⟨⟨stores, audit, timeout, sampleCap⟩, panel⟩ := ih (e.tell event)
    exact ⟨⟨stores, audit, timeout, sampleCap⟩, panel⟩

theorem exportAudit_quiet (e : Engine) : e.Quiet e.exportAudit.1 := by
  unfold exportAudit
  split
  · exact e.tellAll_quiet _
  · exact e.count_quiet _

/-- The engines that calls lead to from `start`, and what goes on quietly beside them, with the tasks that
passes of the watchdog named on the way. -/
inductive Monitored (start : Engine) : List TaskId → Engine → Prop where
  | start : Monitored start [] start
  | beside {ids : List TaskId} {e after : Engine} : Monitored start ids e → Quiet e after →
      Monitored start ids after
  | call {ids : List TaskId} {e : Engine} (c : Call) : Monitored start ids e →
      (e.perform c).supply.Distinct → Monitored start (ids ++ e.timedOut c) (e.perform c)

theorem Monitored.reachable {start : Engine} {ids : List TaskId} (run : Monitored start ids e)
    (reachable : start.Reachable) : e.Reachable := by
  induction run with
  | start => exact reachable
  | beside _ quiet ih => exact ih.aside quiet.toAside
  | call c _ distinct ih => exact ih.call c distinct

theorem Monitored.exact {start : Engine} {ids : List TaskId} (run : Monitored start ids e)
    (reachable : start.Reachable) (before : start.panel.Exact 0) : e.panel.Exact ids.length := by
  induction run with
  | start => exact before
  | beside _ quiet ih => exact quiet.panel ▸ ih
  | call c before distinct ih =>
    rw [List.length_append]
    exact perform_exact (before.reachable reachable).sound ih c distinct

theorem exact_empty (config : Config) (audit : AuditLog) (disk : Disk) (runner : Runner) (supply : Supply) :
    (Engine.ofConfig config audit disk runner supply).panel.Exact 0 where
  unique := List.nodup_nil
  submitted _ := rfl
  finished _ _ := rfl
  retries := rfl
  timeouts := rfl
  depth := rfl
  running := rfl

/-- Between calls the metrics agree with what is there, whether the calls succeeded or failed: the counters
with the tasks that were submitted, retried, finished and timed out, and the gauges with the size of the
queue and the tasks that run. -/
theorem metrics_agree_with_tasks_and_queue {config : Config} {audit : AuditLog} {disk : Disk}
    {runner : Runner} {supply : Supply} {ids : List TaskId}
    (run : Monitored (.ofConfig config audit disk runner supply) ids e) :
    (∀ isRetry, e.metrics.counter (Metrics.submittedSeries isRetry) =
      e.registry.tasks.countP fun t => t.retryOf.isSome == isRetry) ∧
    (∀ status, status.isTerminal = true →
      e.metrics.counter (Metrics.finishedSeries status) = e.registry.countByStatus status) ∧
    e.metrics.counter (Metrics.retriesSeries .auto) + e.metrics.counter (Metrics.retriesSeries .manual) =
      e.registry.tasks.countP (fun t => t.retryOf.isSome) ∧
    e.metrics.counter Metrics.timeoutsSeries = ids.length ∧
    e.metrics.gauge Metrics.queueDepthName = e.queue.size ∧
    e.metrics.gauge Metrics.runningName = e.registry.countByStatus .running := by
  have exact := run.exact (.start ..) (exact_empty ..)
  refine ⟨exact.submitted, fun status terminal => ?_, exact.retries, exact.timeouts, exact.depth, ?_⟩
  · exact (exact.finished status terminal).trans List.countP_eq_length_filter
  · exact exact.running.trans List.countP_eq_length_filter

/-- The watchdog fails a task. While its retry runs a submission of the same scope is refused, and after it
has succeeded somebody looks for the entry in vain. -/
theorem metrics_after_a_timeout_and_a_retry :
    ∃ (config : Config) (supply : Supply) (ids : List TaskId) (e : Engine),
      Monitored (.ofConfig config (.inMemory 100) .empty .parked supply) ids e ∧
      e.registry.tasks.map (·.status) = [.failed, .completed, .running] ∧ ids = [⟨.ofNat 0⟩] ∧
      e.metrics.counter (Metrics.submittedSeries true) = 1 ∧
      e.metrics.counter (Metrics.finishedSeries .completed) = 1 ∧
      e.metrics.counter Metrics.timeoutsSeries = 1 ∧ e.metrics.gauge Metrics.queueDepthName = 0 ∧
      e.metrics.gauge Metrics.runningName = 1 := by
  let supply : Supply :=
    ⟨fun n => ⟨10000 * n, 0⟩, fun n => ⟨.ofNat n⟩, fun n => ⟨.ofNat n⟩, fun _ => 0, 0, 0, 0, 0⟩
  let submitted := (Engine.ofConfig .default (.inMemory 100) .empty .parked supply).perform
    (.submit ⟨.all, "ops", none, none⟩)
  let failed := submitted.perform .runWatchdog
  let retried := failed.perform (.retry ⟨.ofNat 0⟩ ⟨"ops", none, true⟩)
  let refused := retried.perform (.submit ⟨.all, "ops", none, none⟩)
  let completed := refused.perform (.recordOutcome ⟨.ofNat 1⟩ (.success .none))
  let e := (completed.queueEntry ⟨.ofNat 0⟩).1.perform (.submit ⟨.all, "ops", none, none⟩)
  have calls : Monitored _ _ e := ((((((Monitored.start.call _ (by decide +kernel)).call _
    (by decide +kernel)).call _ (by decide +kernel)).call _ (by decide +kernel)).call _
    (by decide +kernel)).beside (completed.queueEntry_quiet _)).call _ (by decide +kernel)
  obtain ⟨ids, run, named⟩ : ∃ ids,
      Monitored (.ofConfig .default (.inMemory 100) .empty .parked supply) ids e ∧ ids = [⟨.ofNat 0⟩] :=
    ⟨_, calls, by decide +kernel⟩
  obtain ⟨submissions, finished, _, timeouts, depth, running⟩ := metrics_agree_with_tasks_and_queue run
  refine ⟨.default, supply, ids, e, run, by decide +kernel, named, ?_, ?_, ?_, ?_, ?_⟩
  · rw [submissions]
    decide +kernel
  · rw [finished .completed rfl]
    decide +kernel
  · rw [timeouts, named]
    rfl
  · rw [depth]
    decide +kernel
  · rw [running]
    decide +kernel

end Engine

end Reindexing
