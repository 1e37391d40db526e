import Reindexing.Proofs.Engine.Outcomes

/-!
# Retries step by step

A retry claims its entry, creates a task, names it in the entry and starts it.
Whether it succeeds is decided once the entry is claimed: if an active task
overlaps the scope, the claim is rolled back, and otherwise nothing stands in the
way. Both lemmas start from the answer of the claim and say what tasks and entries
are left.
-/
namespace Reindexing.Engine

variable {e : Engine} {id : EntryId}

/-- A task that waits starts to run. -/
theorem dispatch_runs {t : Task} (found : e.registry.find? t.id = some t) (waiting : t.status.isWaiting = true)
    (attempt : Nat) :
    (∃ after, e.dispatch t attempt = (after, .ok (t.started e.now.1))) ∧
      ∃ event, (e.dispatch t attempt).1.registry = (e.registry.recorded (t.started e.now.1) event).1 := by
  let event := e.registry.history.nextEvent t.id .running e.now.1 none t.trace
  have accepted : e.registry.markRunning t.id t.trace e.now.1 =
      .ok (e.registry.recorded (t.started e.now.1) event) :=
    Registry.markRunning_of_waiting found waiting t.trace
  have stores : (e.dispatch t attempt).1.stores =
      { e.stores with registry := (e.registry.recorded (t.started e.now.1) event).1 } := by
    simp only [dispatch, registry_now, accepted]
    simp only [stores_withDispatched, stores_openSpan, stores_showRunning, stores_recordTransition,
      stores_withRegistry]
    rfl
  refine ⟨?_, _, congrArg Stores.registry stores⟩
  simp only [dispatch, registry_now, accepted]
  exact ⟨_, rfl⟩

/-- An engine that has claimed an entry has taken one reading of the clock, and no task. -/
theorem claim_holds {c : RetryCommand} {queue : Queue} {taken : Claim}
    (claimed : e.queue.claim id c.actor c.note c.force e.now.1 = (queue, .ok taken)) :
    ∃ holding, e.now.2.claim id c e.now.1 = (holding, .ok taken) ∧
      holding.stores = { e.stores with queue } ∧
      holding.moment = { e.moment with queue, readings := e.moment.readings + 1 } := by
  obtain ⟨holding, claims, stores⟩ := claim_ok (e := e.now.2) claimed
  refine ⟨holding, claims, stores, ?_⟩
  have held : (e.now.2.claim id c e.now.1).1.moment = { e.now.2.moment with queue } := by
    simp only [Engine.claim, queue_now, claimed, moment_recordMutations, moment_tell, moment_withQueue]
  rw [claims] at held
  exact held

/-- A retry of an entry whose scope is busy is refused with a task in its way, and rolls its claim back. -/
theorem retry_of_busy {c : RetryCommand} {queue : Queue} {taken : Claim}
    (claimed : e.queue.claim id c.actor c.note c.force e.now.1 = (queue, .ok taken))
    (busy : e.registry.Busy taken.entry.scope) :
    ∃ holding active, (e.now.2.claim id c e.now.1 = (holding, .ok taken) ∧
        holding.stores = { e.stores with queue } ∧
        holding.moment = { e.moment with queue, readings := e.moment.readings + 1 }) ∧
      e.retry id c = ((holding.countRefusal (.scopeBusy taken.entry.scope active)).release taken e.now.1,
        .error (.scopeBusy taken.entry.scope active)) := by
  obtain ⟨holding, claims, stores, held⟩ := claim_holds claimed
  have registry : holding.registry = e.registry := congrArg Stores.registry stores
  cases submits : holding.registry.submit holding.nextTaskId
      ⟨taken.entry.scope, c.actor, c.note, holding.link none, some id⟩ e.now.1 with
  | ok value =>
    have free := (Registry.submit_ok_iff.mp submits).1
    rw [registry, Registry.activeOverlapping_eq_nil_iff] at free
    exact absurd busy free
  | error r =>
    obtain ⟨active, _, rfl⟩ := Registry.submit_error submits
    have refused := create_error submits
    refine ⟨holding, active.id, ⟨claims, stores, held⟩, ?_⟩
    simp only [retry, claims, refused]

/-- A retry that is rolled back leaves the tasks alone, and of the entries what the claim and its release
leave. -/
theorem rolled_back {c : RetryCommand} {queue : Queue} {taken : Claim}
    (claimed : e.queue.claim id c.actor c.note c.force e.now.1 = (queue, .ok taken))
    (busy : e.registry.Busy taken.entry.scope) :
    (e.retry id c).1.registry = e.registry ∧
      (e.retry id c).1.moment =
        { e.moment with queue := (queue.release taken e.now.1).1, readings := e.moment.readings + 1 } := by
  obtain ⟨holding, active, ⟨_, stores, held⟩, result⟩ := retry_of_busy claimed busy
  have queue_eq : holding.queue = queue := congrArg Stores.queue stores
  rw [result]
  constructor
  · exact (congrArg Desk.registry (desk_release ..)).trans (congrArg Stores.registry stores)
  · rw [moment_release, moment_countRefusal, held, show (holding.countRefusal _).queue = queue from queue_eq]

/-- The engine in a retry after its task was counted. -/
def counted (e : Engine) (created : Transition) (mode : RetryMode) : Engine :=
  (e.recordTransition created).mapMetrics fun m =>
    (m.increment (Metrics.submittedSeries true)).increment (Metrics.retriesSeries mode)

@[simp] theorem stores_counted (e : Engine) (created : Transition) (mode : RetryMode) :
    (e.counted created mode).stores = e.stores := by simp [counted]

@[simp] theorem moment_counted (e : Engine) (created : Transition) (mode : RetryMode) :
    (e.counted created mode).moment = e.moment := by simp [counted]

theorem taskIds_attach (e : Engine) (id : EntryId) (task : TaskId) :
    (e.attach id task).stores.taskIds = e.stores.taskIds := by
  unfold Engine.attach
  split <;> rfl

section
variable {c : RetryCommand} {taken : Claim} {holding between : Engine} {created : Transition}
  (claims : e.now.2.claim id c e.now.1 = (holding, .ok taken))
  (creates : holding.create ⟨taken.entry.scope, c.actor, c.note, holding.link none, some id⟩ e.now.1 =
    (between, .ok created))
include claims creates

/-- A retry that has created its task counts it, names it in the entry and starts it. -/
theorem retry_of_created : e.retry id c =
    match ((between.counted created taken.entry.mode).attach id created.task.id).dispatch
        created.task taken.entry.attempts with
    | (e, .error r) => (e, .error r)
    | (e, .ok _) => (e.tell (dispatchedEvent taken.entry created.task.id c.actor),
        .ok { taken.entry with currentTask := some created.task.id }) := by
  simp only [retry, claims]
  rw [show holding.create _ e.now.1 = (between, .ok created) from creates]
  rfl

/-- Once its task is dispatched, a retry at most tells so. -/
theorem retry_dispatches :
    let dispatched := (((between.counted created taken.entry.mode).attach id created.task.id).dispatch
      created.task taken.entry.attempts).1
    (e.retry id c).1 = dispatched ∨ ∃ event, (e.retry id c).1 = dispatched.tell event := by
  intro dispatched
  rw [retry_of_created claims creates]
  split
  · next result => exact .inl (congrArg Prod.fst result).symm
  · next result => exact .inr ⟨_, congrArg (fun p => Engine.tell p.1 _) result.symm⟩

end

/-- A task that was created and then dispatched got an identifier that no task had. -/
theorem fresh_of_dispatch (coherent : Coherent e.stores.view []) {ready : Engine} {id : TaskId}
    (issued : ready.stores.taskIds = e.stores.taskIds ++ [id]) {t : Task} {attempt : Nat}
    (distinct : (ready.dispatch t attempt).1.stores.Distinct) : ∀ u ∈ e.registry.tasks, u.id ≠ id := by
  have before := ((ready.dispatch_completes t attempt).distinct_before distinct).1
  rw [issued] at before
  exact coherent.issued.fresh_task before

/-- A task that was just submitted stands last, also after it was started. -/
theorem tasks_recorded_of_submitted {r : Registry} {t : Task} {history : HistoryLog} (event : HistoryEvent)
    (apart : ∀ u ∈ r.tasks, u.id ≠ t.id) (now : Instant) :
    ((⟨r.tasks ++ [t], history⟩ : Registry).recorded (t.started now) event).1.tasks =
      r.tasks ++ [t.started now] := by
  have others : Keyed.replaceBy (·.id) (t.started now) r.tasks = r.tasks := Keyed.replaceBy_of_absent apart
  simp only [Registry.recorded, Registry.replace_eq, Keyed.replaceBy, List.map_append] at others ⊢
  rw [others]
  simp

/-- A retry of an entry whose scope is free creates a task for it, names it in the entry and starts it. -/
theorem retry_of_free (coherent : Coherent e.stores.view []) {c : RetryCommand} {queue : Queue} {taken : Claim}
    (claimed : e.queue.claim id c.actor c.note c.force e.now.1 = (queue, .ok taken))
    {named : TaskId → Queue} (attached : ∀ task, queue.attach id task = .ok (named task))
    (free : ¬ e.registry.Busy taken.entry.scope) (distinct : (e.retry id c).1.stores.Distinct) :
    ∃ t : Task, (∃ after, e.retry id c = (after, .ok { taken.entry with currentTask := some t.id })) ∧
      (t.status = .running ∧ t.retryOf = some id ∧ t.scope = taken.entry.scope ∧
        t.startedAt = some (e.supply.clock (e.supply.readings + 1))) ∧
      (∀ u ∈ e.registry.tasks, u.id ≠ t.id) ∧
      (e.retry id c).1.registry.tasks = e.registry.tasks ++ [t] ∧
      (e.retry id c).1.moment =
        { e.moment with queue := named t.id, readings := e.moment.readings + 2 } := by
  obtain ⟨holding, claims, stores, held⟩ := claim_holds claimed
  have registry : holding.registry = e.registry := congrArg Stores.registry stores
  let s : Submission := ⟨taken.entry.scope, c.actor, c.note, holding.link none, some id⟩
  let fresh := Registry.newTask holding.nextTaskId s e.now.1
  let event := holding.registry.submitEvent fresh e.now.1
  have submits : holding.registry.submit holding.nextTaskId s e.now.1 =
      .ok (⟨holding.registry.tasks ++ [fresh], holding.registry.history.add event⟩, ⟨fresh, event⟩) :=
    Registry.submit_ok_iff.mpr
      ⟨(Registry.activeOverlapping_eq_nil_iff _ _).mpr (registry ▸ free), rfl, rfl⟩
  obtain ⟨between, creates, stores_between⟩ := create_ok submits
  let counted := between.counted ⟨fresh, event⟩ taken.entry.mode
  have stores_counted : counted.stores = between.stores := between.stores_counted ..
  have moment_counted : counted.moment = holding.moment := by
    have created := holding.moment_create s e.now.1
    rw [creates] at created
    exact (between.moment_counted ..).trans created
  let ready := counted.attach id fresh.id
  have moment_ready : ready.moment =
      { e.moment with queue := named fresh.id, readings := e.moment.readings + 1 } := by
    have queue_eq : counted.queue = queue :=
      congrArg (fun m : Moment => m.queue) (moment_counted.trans held)
    rw [moment_attach (queue_eq ▸ attached fresh.id), moment_counted, held]
  have registry_ready : ready.registry = ⟨e.registry.tasks ++ [fresh], holding.registry.history.add event⟩ := by
    refine (congrArg Desk.registry (desk_attach ..)).trans ?_
    rw [← registry]
    exact congrArg Stores.registry (stores_counted.trans stores_between)
  have goes_on : e.retry id c = match ready.dispatch fresh taken.entry.attempts with
      | (e, .error r) => (e, .error r)
      | (e, .ok _) => (e.tell (dispatchedEvent taken.entry fresh.id c.actor),
          .ok { taken.entry with currentTask := some fresh.id }) := retry_of_created claims creates
  have stores_after : (e.retry id c).1.stores = (ready.dispatch fresh taken.entry.attempts).1.stores := by
    rcases retry_dispatches claims creates with same | ⟨event, same⟩ <;> rw [same]
    rfl
  have apart : ∀ u ∈ e.registry.tasks, u.id ≠ fresh.id := by
    have issued : ready.stores.taskIds = e.stores.taskIds ++ [fresh.id] := by
      rw [show ready.stores.taskIds = counted.stores.taskIds from taskIds_attach .., stores_counted,
        stores_between, stores, show fresh.id = holding.nextTaskId from Registry.newTask_id ..]
    rw [stores_after] at distinct
    exact fresh_of_dispatch coherent issued distinct
  have found : ready.registry.find? fresh.id = some fresh := by
    rw [registry_ready]
    exact Registry.find?_of_mem (Keyed.nodup_map_append coherent.issued.unique.tasks apart)
      (List.mem_append_right _ (List.mem_singleton_self fresh))
  obtain ⟨⟨last, starts⟩, started, registry_after⟩ :=
    dispatch_runs found (Registry.newTask_waiting ..) taken.entry.attempts
  rw [starts] at goes_on stores_after registry_after
  have now_ready : ready.now.1 = e.supply.clock (e.supply.readings + 1) :=
    congrArg (fun m : Moment => m.clock m.readings) moment_ready
  refine ⟨fresh.started ready.now.1, ⟨_, goes_on⟩, ⟨rfl, ?_, ?_, ?_⟩, apart, ?_, ?_⟩
  · exact Registry.newTask_retryOf ..
  · exact Registry.newTask_scope ..
  · exact congrArg some now_ready
  · refine (congrArg (·.registry.tasks) stores_after).trans ?_
    rw [show last.stores.registry = _ from registry_after, registry_ready]
    exact tasks_recorded_of_submitted started apart _
  · have moved := moment_dispatch ready fresh taken.entry.attempts
    rw [starts, moment_ready] at moved
    rw [goes_on]
    exact moved

/-! ### Retries of the scheduler -/

theorem stores_retryOne (e : Engine) (id : EntryId) :
    (e.retryOne id).1.stores = (e.retry id ⟨schedulerActor, none, false⟩).1.stores := by
  unfold retryOne
  split <;> simp [*]

theorem isOk_retryOne (e : Engine) (id : EntryId) :
    (e.retryOne id).2 = (e.retry id ⟨schedulerActor, none, false⟩).2.isOk := by
  unfold retryOne
  split <;> simp [*, Except.isOk, Except.toBool]

end Reindexing.Engine
