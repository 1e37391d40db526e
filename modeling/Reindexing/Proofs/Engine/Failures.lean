import Reindexing.Proofs.Audit.Log
import Reindexing.Proofs.Cooldown
import Reindexing.Proofs.Engine.LatestFailure
import Reindexing.Proofs.Engine.Runs

/-!
# Recording of failures

A failure that is reported for a running task is recorded in full: as one event
in the history and as one change of the queue, both in the audit trail in this
order, and under the label of the scope the queue then holds the entry that names
the task. This holds on all three ways a failure takes into the queue: to the
entry of a retry, to the entry of its label, and to a new entry. That none of
them can fail rests on the index by label, and on the scope that a retry shares
with its entry.

One thing can go wrong on each way. The entry gets a new cooldown, and if that
cannot be formed, the program ends before the failure is recorded. `CooldownFits`
is the exact condition under which it goes on.
-/
namespace Reindexing

namespace Queue

variable {q after : Queue} {t : Task} {e : QueueEntry} {now : Instant} {draw : Nat}

/-- The attempts behind the cooldown that a failure of the task gives to an entry, if it gives one. A retry
gives it to its own entry, and other tasks to the entry of their label, unless a retry of that is running. -/
def attemptsFor? (q : Queue) (t : Task) : Option Nat :=
  match t.retryOf.bind q.find? with
  | some own => if own.mode = .auto ∧ own.attempts < own.maxAttempts then some own.attempts else none
  | none =>
    match q.findByScope t.scope with
    | some known =>
      if known.status ≠ .running ∧ known.mode = .auto ∧ known.attempts < known.maxAttempts then
        some known.attempts
      else none
    | none => if 0 < q.maxAttempts then some 0 else none

/-- If a failure of the task gives a cooldown to an entry, then this can be formed. -/
def CooldownFits (q : Queue) (t : Task) (draw : Nat) : Prop :=
  ∀ attempts ∈ q.attemptsFor? t, q.policy.InRange attempts draw

instance (q : Queue) (t : Task) (draw : Nat) : Decidable (q.CooldownFits t draw) :=
  inferInstanceAs (Decidable (∀ attempts ∈ q.attemptsFor? t, q.policy.InRange attempts draw))

theorem cooldownFits_ended (t : Task) (o : Outcome) (now : Instant) :
    q.CooldownFits (t.ended o now) draw ↔ q.CooldownFits t draw := by
  rw [CooldownFits, CooldownFits, attemptsFor?, attemptsFor?, Task.ended_retryOf, Task.ended_scope]

/-- Every cooldown can be formed if nothing is drawn, or if the ceiling lies far enough below the longest span. -/
theorem cooldownFits_of_policy
    (roomy : ¬ (0.0 : Float) < q.policy.jitter ∨
      q.policy.max.nanos + (Span.ofMillis Word.max64).nanos ≤ Span.longest.nanos)
    (t : Task) (draw : Nat) : q.CooldownFits t draw := fun attempts _ =>
  roomy.elim (CooldownPolicy.inRange_of_no_jitter · attempts draw) (CooldownPolicy.inRange_of_max_le · attempts draw)

theorem overflowed_noteOverflow {overflow : Bool} :
    (q.noteOverflow overflow).overflowed = false ↔ q.overflowed = false ∧ overflow = false := by
  rw [noteOverflow, Bool.or_eq_false_iff, and_comm]

theorem overflows_eq_false_iff : q.overflows e draw = false ↔
    (e.status ≠ .running ∧ e.mode = .auto ∧ e.attempts < e.maxAttempts → q.policy.InRange e.attempts draw) := by
  have formed : q.policy.jitteredCooldown e.attempts draw = none ↔ ¬ q.policy.InRange e.attempts draw :=
    CooldownPolicy.jitteredCooldown_eq_none_iff
  rw [← Bool.not_eq_true, overflows]
  simp only [Bool.and_eq_true, decide_eq_true_eq, Option.isNone_iff_eq_none, formed]
  tauto

/-- A cooldown that is given only under a condition has to fit only under that condition. -/
theorem forall_mem_ite {given : Prop} [Decidable given] {attempts : Nat} {fits : Nat → Prop} :
    (∀ k ∈ if given then some attempts else none, fits k) ↔ (given → fits attempts) := by
  by_cases holds : given
  · simp [holds]
  · simp [holds]

/-- The failure of a retry leaves a cooldown that can be formed, or none. -/
theorem fits_of_own (own : t.retryOf.bind q.find? = some e) :
    q.overflows (q.retryFailed e t now draw) draw = false ↔ q.CooldownFits t draw := by
  have idle : (q.retryFailed e t now draw).status ≠ .running := nofun
  rw [overflows_eq_false_iff, CooldownFits, attemptsFor?, own]
  dsimp only
  rw [forall_mem_ite]
  exact imp_congr_left (and_iff_right idle)

/-- The failure of any other task is recorded with a cooldown that can be formed, or none. -/
theorem fits_of_enqueue {m : Mutation} {fresh : EntryId} (status : t.status = .failed)
    (free : t.retryOf.bind q.find? = none) (accepted : q.enqueue t .auto now fresh draw = .ok (after, m)) :
    after.overflowed = false ↔ q.overflowed = false ∧ q.CooldownFits t draw := by
  have idle : (q.newEntry fresh t .auto now draw).status ≠ .running := nofun
  cases label : q.idOfLabel? t.scope.label with
  | none =>
    have created := accepted.symm.trans (enqueue_of_new_label status label)
    obtain rfl : after = _ := congrArg Prod.fst (Except.ok.inj created)
    have unknown : q.findByScope t.scope = none := by rw [findByScope, label, Option.bind_none]
    refine overflowed_noteOverflow.trans (and_congr_right fun _ => ?_)
    rw [overflows_eq_false_iff, CooldownFits, attemptsFor?, free, unknown]
    dsimp only
    rw [forall_mem_ite]
    exact imp_congr_left ((and_iff_right idle).trans (and_iff_right rfl))
  | some id =>
    have updated := accepted.symm.trans (enqueue_of_label status label)
    cases found : q.find? id with
    | none =>
      rw [found] at updated
      cases updated
    | some e =>
      rw [found] at updated
      obtain rfl : after = _ := congrArg Prod.fst (Except.ok.inj updated)
      have known : q.findByScope t.scope = some e := by rw [findByScope, label, Option.bind_some, found]
      refine overflowed_noteOverflow.trans (and_congr_right fun _ => ?_)
      rw [overflows_eq_false_iff, CooldownFits, attemptsFor?, free, known]
      dsimp only
      rw [forall_mem_ite]
      rfl

end Queue

namespace Engine

/-- The audit trail of an engine, in memory and on disk. -/
def trail (e : Engine) : AuditLog × Disk := (e.audit, e.disk)

/-- An engine that differs at most in what it tells, counts and draws. -/
structure SameTrail (e after : Engine) : Prop where
  trail : after.trail = e.trail
  registry : after.registry = e.registry

theorem trail_record (e : Engine) (r : AuditRecord) :
    (e.record r).trail = e.audit.appendAll e.disk [r] := by
  unfold Engine.record
  split <;> simp [trail, count, tell, mapMetrics, AuditLog.appendAll, *]

theorem registry_record (e : Engine) (r : AuditRecord) : (e.record r).registry = e.registry :=
  congrArg Stores.registry (e.stores_record r)

theorem queue_record (e : Engine) (r : AuditRecord) : (e.record r).queue = e.queue :=
  congrArg Stores.queue (e.stores_record r)

section
variable {e : Engine} {failed : Task} {now : Instant}

/-- Recording a failure under its label never fails and leaves the trail to the caller. -/
theorem enqueue_records {pending : List Section} (issued : Issued e.stores.view pending)
    (indexed : Indexed e.queue.byScope e.queue.standings) (status : failed.status = .failed)
    (distinct : (e.enqueue failed now).1.stores.Distinct) :
    ∃ after m, e.enqueue failed now = (after, .ok m) ∧ SameTrail e after ∧
      (m.kind = .created ∨ m.kind = .updated) ∧
      after.queue.findByScope failed.scope = some m.entry ∧ m.entry.lastTask = failed.id ∧
      m.entry.lastError = failed.errorCode := by
  obtain ⟨queue, m, accepted, lastTask, lastError, routed⟩ :=
    Queue.enqueue_records indexed issued.unique.entries status .auto now e.nextEntryId e.nextDraw
  rcases routed with ⟨kind, found⟩ | ⟨kind, found⟩
  · refine ⟨({ e with queue }.takeDraw).tell (enqueuedEvent m failed), m, ?_, ⟨rfl, rfl⟩,
      .inr kind, found, lastTask, lastError⟩
    simp [enqueue, accepted, kind]
  · have result : e.enqueue failed now =
        ((({ e with queue }.takeDraw).takeEntryId).tell (enqueuedEvent m failed), .ok m) := by
      simp [enqueue, accepted, kind]
    refine ⟨_, m, result, ⟨rfl, rfl⟩, .inl kind, ?_, lastTask, lastError⟩
    rw [result, stores_tell, stores_takeEntryId] at distinct
    exact found (issued.fresh_entry distinct.2)

/-- A failure is recorded once, in the entry that was retried if it is there. -/
theorem routeFailure_records (coherent : Coherent e.stores.view (Section.settlement failed))
    (status : failed.status = .failed)
    (distinct : (e.routeFailure failed now).1.stores.Distinct) :
    ∃ after m, e.routeFailure failed now = (after, .ok m) ∧ SameTrail e after ∧
      (m.kind = .created ∨ m.kind = .updated) ∧
      after.queue.findByScope failed.scope = some m.entry ∧ m.entry.lastTask = failed.id ∧
      m.entry.lastError = failed.errorCode := by
  cases own : failed.retryOf.bind e.queue.find? with
  | none =>
    rcases routeFailure_of_free own now with route | ⟨r, route⟩
    · rw [route] at distinct ⊢
      exact enqueue_records coherent.issued coherent.indexed status distinct
    · rw [route] at distinct ⊢
      obtain ⟨after, m, result, same, rest⟩ :=
        enqueue_records (e := e.countRefusal r) coherent.issued coherent.indexed status distinct
      exact ⟨after, m, result, ⟨same.trail, same.registry⟩, rest⟩
  | some entry =>
    obtain ⟨retried, found⟩ := retryOf_of_own own
    have settles : Section.settlement failed = [.recordRetryFailure entry.id failed] := by
      simp only [Section.settlement, retried, status, if_true]
    have indexed : Indexed e.queue.byScope e.queue.standings := coherent.indexed
    have known := Queue.standing_mem_of_find? found
    have brought := coherent.rooted.brings _ (settles ▸ List.mem_singleton_self _) failed rfl
    have scope : failed.scope = entry.scope :=
      coherent.linked.scope failed brought.1 _ known.1 (by rw [retried, known.2])
    obtain ⟨queue, m, accepted, lastTask, lastError, kind, located⟩ :=
      Queue.recordRetryFailure_records indexed coherent.issued.unique.entries found
        (congrArg Scope.label scope) now e.nextDraw
    exact ⟨_, m, routeFailure_of_own own accepted, ⟨rfl, rfl⟩, .inr kind, located, lastTask, lastError⟩

end

/-! ### Cooldowns of failures -/

/-- If a failure of the task gives a cooldown to an entry, then this can be formed with the next draw. -/
def CooldownFits (e : Engine) (t : Task) : Prop := e.queue.CooldownFits t e.nextDraw

instance (e : Engine) (t : Task) : Decidable (e.CooldownFits t) :=
  inferInstanceAs (Decidable (e.queue.CooldownFits t e.nextDraw))

theorem isUp_iff {e : Engine} : e.isUp = true ↔ e.queue.overflowed = false := by
  rw [isUp, Bool.not_eq_true']

theorem isUp_of_queue {e after : Engine} {queue : Queue} (stored : after.queue = queue)
    (same : queue.overflowed = e.queue.overflowed) : after.isUp = e.isUp := by
  rw [isUp, isUp, stored, same]

theorem isUp_enqueue {e after : Engine} {failed : Task} {now : Instant} {m : Mutation}
    (status : failed.status = .failed) (free : failed.retryOf.bind e.queue.find? = none)
    (result : e.enqueue failed now = (after, .ok m)) :
    after.isUp = true ↔ e.isUp = true ∧ e.CooldownFits failed := by
  cases accepted : e.queue.enqueue failed .auto now e.nextEntryId e.nextDraw with
  | error r =>
    simp only [enqueue, accepted] at result
    cases result
  | ok value =>
    obtain ⟨queue, told⟩ := value
    simp only [enqueue, accepted] at result
    have stored : after.queue = queue := by
      rw [← (Prod.mk.inj result).1]
      split <;> rfl
    rw [isUp_iff, isUp_iff, stored]
    exact Queue.fits_of_enqueue status free accepted

/-- A failure that is routed ends the program exactly if its cooldown cannot be formed. -/
theorem isUp_routeFailure {e after : Engine} {failed : Task} {now : Instant} {m : Mutation}
    (status : failed.status = .failed) (result : e.routeFailure failed now = (after, .ok m)) :
    after.isUp = true ↔ e.isUp = true ∧ e.CooldownFits failed := by
  cases own : failed.retryOf.bind e.queue.find? with
  | none =>
    rcases routeFailure_of_free own now with route | ⟨r, route⟩
    · exact isUp_enqueue status own (route.symm.trans result)
    · exact isUp_enqueue (e := e.countRefusal r) status own (route.symm.trans result)
  | some entry =>
    have accepted := Queue.recordRetryFailure_eq e.queue entry.id failed now e.nextDraw
    rw [(retryOf_of_own own).2] at accepted
    have route := (routeFailure_of_own own accepted).symm.trans result
    obtain rfl : _ = after := congrArg Prod.fst route
    rw [isUp_iff, isUp_iff]
    exact Queue.overflowed_noteOverflow.trans (and_congr_right' (Queue.fits_of_own own))

/-! ### Reports of failures -/

/-- What the report of a failure leaves: one event in the history, this event and one mutation in
the trail, and under the label of the scope the entry that names the task and its error. -/
structure FailureRecorded (e after : Engine) (t : Task) (code : String) (event : HistoryEvent)
    (m : Mutation) : Prop where
  history : after.registry.history.events = e.registry.history.events ++ [event]
  task : event.task = t.id
  status : event.status = .failed
  trail : after.trail = e.audit.appendAll e.disk [.event event, .mutation m]
  /-- The records in memory are the old ones, the event and the mutation, less the oldest for which there
  is no room. -/
  gained : 0 < e.audit.limit →
    after.audit.records =
      (e.audit.records ++ [AuditRecord.event event, .mutation m]).drop (e.audit.excess 2)
  kind : m.kind = .created ∨ m.kind = .updated
  found : after.queue.findByScope t.scope = some m.entry
  lastTask : m.entry.lastTask = t.id
  lastError : m.entry.lastError = some code

/-- The engine between the end of a task and what follows in the queue. -/
def ending (e : Engine) (done : Task) (event : HistoryEvent) : Engine :=
  (({ e.now.2 with registry := (e.registry.recorded done event).1 }.tell
    (finishedEvent done)).recordTransition ⟨done, event⟩).mapMetrics
      (·.countFinished done.status done.durationMillis)

theorem stores_ending (e : Engine) (done : Task) (event : HistoryEvent) :
    (e.ending done event).stores = { e.stores with registry := (e.registry.recorded done event).1 } := by
  simp [ending]

theorem trail_ending (e : Engine) (done : Task) (event : HistoryEvent) :
    (e.ending done event).trail = e.audit.appendAll e.disk [.event event] := by
  change (Engine.record _ (.event event)).trail = _
  rw [trail_record]
  rfl

/-- The end of a task changes neither the queue nor the next draw. -/
theorem cooldown_ending (e : Engine) (done : Task) (event : HistoryEvent) :
    (e.ending done event).isUp = e.isUp ∧
      ∀ t, (e.ending done event).CooldownFits t ↔ e.CooldownFits t := by
  have queue : (e.ending done event).queue = e.queue := congrArg Stores.queue (stores_ending e done event)
  have draw : (e.ending done event).nextDraw = e.nextDraw :=
    apply_record nextDraw (fun _ _ _ _ _ => rfl) _ (.event event)
  refine ⟨?_, fun t => ?_⟩
  · rw [isUp, isUp, queue]
  · rw [CooldownFits, CooldownFits, queue, draw]

theorem settleQueue_of_route {e routed : Engine} {done : Task} {now : Instant} {m : Mutation}
    (failed : done.status = .failed) (route : e.routeFailure done now = (routed, .ok m)) :
    e.settleQueue done now = (routed.recordMutation m, .ok ()) := by
  simp only [settleQueue, failed, if_true, route]

/-- The report of a failure ends the task, and its result is that of routing the failure. -/
theorem recordOutcome_of_failure {e : Engine} {t : Task} {code : String} {message : Option String}
    {done : Task} {event : HistoryEvent}
    (accepted : e.registry.recordOutcome t.id (.failure code message) none (e.link none) e.now.1 =
      .ok (e.registry.recorded done event)) :
    e.recordOutcome t.id (.failure code message) =
      match (e.ending done event).settleQueue done e.now.1 with
      | (e, .error r) => (e, .error r)
      | (e, .ok ()) => ((e.showQueueDepth).showRunning, .ok done) := by
  have now_accepted : e.now.2.registry.recordOutcome t.id
      ((Outcome.failure code message).track e.now.2.sampleCap) none (e.now.2.link none) e.now.1 =
        .ok (e.registry.recorded done event) := accepted
  have told : e.tellTruncation (.failure code message) = e := rfl
  simp only [recordOutcome, told, now_accepted]
  rfl

theorem stores_recordOutcome_of_failure {e : Engine} {t : Task} {code : String}
    {message : Option String} {done : Task} {event : HistoryEvent} (failed : done.status = .failed)
    (accepted : e.registry.recordOutcome t.id (.failure code message) none (e.link none) e.now.1 =
      .ok (e.registry.recorded done event)) :
    (e.recordOutcome t.id (.failure code message)).1.stores =
      ((e.ending done event).routeFailure done e.now.1).1.stores := by
  rw [recordOutcome_of_failure accepted, ← stores_settleQueue failed]
  split <;> simp [*]

/-- Between the end of the task and the queue, the stores owe the queue this failure. -/
theorem coherent_ending {e : Engine} (coherent : Coherent e.stores.view []) {id : TaskId} {o : Outcome}
    {done : Task} {event : HistoryEvent}
    (accepted : e.registry.recordOutcome id o none (e.link none) e.now.1 =
      .ok (e.registry.recorded done event)) (distinct : (e.ending done event).stores.Distinct) :
    Coherent (e.ending done event).stores.view (Section.settlement done) := by
  have ran : (Section.report id o).run (e.inputs e.now.1 (e.link none)) e.stores =
      ((e.ending done event).stores, Section.settlement done) := by
    rw [stores_ending]
    simp only [Section.run, inputs]
    rw [show e.stores.registry = e.registry from rfl, accepted]
    rfl
  have reported := Stores.coherent_run (coherent.open_section (s := .report id o) rfl)
    (e.inputs e.now.1 (e.link none)) (by rw [ran]; exact distinct)
  rw [ran, List.append_nil] at reported
  exact reported

theorem recordOutcome_records {e : Engine} (coherent : Coherent e.stores.view []) {t : Task}
    (task : t ∈ e.registry.tasks) (running : t.status = .running) (code : String)
    (message : Option String)
    (distinct : (e.perform (.recordOutcome t.id (.failure code message))).supply.Distinct) :
    ∃ after done event m, e.recordOutcome t.id (.failure code message) = (after, .ok done) ∧
      e.FailureRecorded after t code event m ∧
      (after.isUp = true ↔ e.isUp = true ∧ e.CooldownFits t) := by
  let o : Outcome := .failure code message
  let done := t.ended o e.now.1
  let event := e.registry.history.nextEvent t.id .failed (t.endTime e.now.1) none (e.link none)
  have found := Registry.find?_of_mem coherent.issued.unique.tasks task
  have accepted : e.registry.recordOutcome t.id o none (e.link none) e.now.1 =
      .ok (e.registry.recorded done event) :=
    Registry.recordOutcome_of_running found running o none (e.link none)
  have failed : done.status = .failed := Task.ended_status t o e.now.1
  have distinct_routed : ((e.ending done event).routeFailure done e.now.1).1.stores.Distinct := by
    rw [← stores_recordOutcome_of_failure failed accepted]
    exact distinct
  have distinct_between : (e.ending done event).stores.Distinct :=
    ((e.ending done event).routeFailure_completes e.now.1 failed).distinct_before distinct_routed
  have between := coherent_ending coherent accepted distinct_between
  obtain ⟨routed, m, route, same, kind, located, lastTask, lastError⟩ :=
    routeFailure_records between failed distinct_routed
  have result := recordOutcome_of_failure accepted
  rw [settleQueue_of_route failed route] at result
  have registry : (routed.recordMutation m).registry = (e.registry.recorded done event).1 := by
    rw [recordMutation, registry_record, same.registry]
    exact congrArg Stores.registry (stores_ending e done event)
  have trail : (routed.recordMutation m).trail = e.audit.appendAll e.disk [.event event, .mutation m] := by
    have before : (routed.audit, routed.disk) = e.audit.appendAll e.disk [.event event] :=
      same.trail.trans (trail_ending e done event)
    rw [recordMutation, trail_record,
      show [.event event, .mutation m] = [AuditRecord.event event] ++ [.mutation m] from rfl,
      AuditLog.appendAll_append, ← before]
  have queue : (routed.recordMutation m).queue = routed.queue := routed.queue_record _
  have scope : done.scope = t.scope := Task.ended_scope t o e.now.1
  have lives : (routed.recordMutation m).isUp = true ↔ e.isUp = true ∧ e.CooldownFits t := by
    have routed_up := isUp_routeFailure failed route
    obtain ⟨up, fits⟩ := cooldown_ending e done event
    rw [up, fits] at routed_up
    rw [isUp_iff, queue, ← isUp_iff, routed_up]
    exact and_congr_right fun _ => Queue.cooldownFits_ended t o e.now.1
  refine ⟨_, done, event, m, result, ?_, lives⟩
  exact {
    history := congrArg (·.history.events) registry
    task := rfl
    status := rfl
    trail := trail
    gained := fun positive =>
      (congrArg (·.1.records) trail).trans (AuditLog.appendAll_gains positive e.disk _).1
    kind := kind
    found := by
      rw [← scope, ← located, ← queue]
      rfl
    lastTask := lastTask.trans (Task.ended_id t o e.now.1)
    lastError := lastError }

theorem Reachable.settled {e : Engine} (h : Reachable e) : Settled e.stores.view [] := by
  induction h with
  | start config audit disk runner supply => exact Stores.settled_empty ..
  | aside _ beside ih =>
    rw [beside.stores]
    exact ih
  | @call e c before distinct ih =>
    have openings := c.sections_open e.timeout e.sampleCap
    have coherent := before.coherent.open_sections openings
    rw [List.append_nil] at coherent
    exact (e.perform_completes c).settled coherent (ih.open_sections openings) distinct

/-- No failure is dropped in silence, unless its cooldown cannot be formed. Whenever a failure is reported for
a running task and its cooldown fits, the report succeeds and the failure is recorded in history, audit trail
and queue; where the cooldown does not fit, the report ends the program. At any time the last task of an entry
is the one that failed last of all tasks under the label of the entry. -/
theorem failures_are_recorded_as_long_as_cooldowns_fit {e : Engine} (h : e.Reachable) (up : e.isUp = true) :
    (∀ t ∈ e.registry.tasks, t.status = .running → ∀ code message,
      (e.perform (.recordOutcome t.id (.failure code message))).supply.Distinct →
      (e.CooldownFits t → ∃ after done event m,
        e.recordOutcome t.id (.failure code message) = (after, .ok done) ∧ after.isUp = true ∧
          e.FailureRecorded after t code event m) ∧
      (¬ e.CooldownFits t → (e.recordOutcome t.id (.failure code message)).1.isUp = false)) ∧
    (∀ q ∈ e.queue.entries, e.registry.FailedLast q.scope.label q.lastTask) := by
  constructor
  · intro t task running code message distinct
    obtain ⟨after, done, event, m, result, recorded, lives⟩ :=
      recordOutcome_records h.coherent task running code message distinct
    refine ⟨fun fits => ⟨after, done, event, m, result, lives.mpr ⟨up, fits⟩, recorded⟩, fun beyond => ?_⟩
    rw [result]
    exact Bool.eq_false_iff.mpr fun still => beyond (lives.mp still).2
  · intro q member
    exact h.settled.latest q.standing (List.mem_map_of_mem member) (by simp [owed?])

/-- An operator dismisses an entry while its retry runs. When the retry fails as well, a new entry
is opened for the scope. -/
theorem failure_of_a_dismissed_retry :
    ∃ e : Engine, e.Reachable ∧ e.queue.entries = [] ∧
      e.registry.tasks.map (·.status) = [.failed, .running] ∧
      ∃ t ∈ e.registry.tasks, t.retryOf ≠ none ∧ e.CooldownFits t ∧
        ∃ after done event m, e.recordOutcome t.id (.failure "E2" none) = (after, .ok done) ∧
          after.isUp = true ∧ e.FailureRecorded after t "E2" event m := by
  let supply : Supply :=
    ⟨fun _ => .epoch, fun n => ⟨.ofNat n⟩, fun n => ⟨.ofNat n⟩, fun _ => 0, 0, 0, 0, 0⟩
  let submitted := (Engine.ofConfig .default (.inMemory 100) .empty .parked supply).perform
    (.submit ⟨.all, "ops", none, none⟩)
  let failed := submitted.perform (.recordOutcome ⟨.ofNat 0⟩ (.failure "E1" none))
  let manual := failed.perform (.setRetryMode ⟨.ofNat 0⟩ .manual "ops")
  let retried := manual.perform (.retry ⟨.ofNat 0⟩ ⟨"ops", none, false⟩)
  let dismissed := retried.perform (.remove ⟨.ofNat 0⟩ none)
  have reachable : dismissed.Reachable := (((((Reachable.start ..).call _ (by decide)).call _
    (by decide)).call _ (by decide)).call _ (by decide)).call _ (by decide)
  obtain ⟨t, task, running, retry, distinct⟩ :
      ∃ t ∈ dismissed.registry.tasks, t.status = .running ∧ t.retryOf ≠ none ∧
        (dismissed.perform (.recordOutcome t.id (.failure "E2" none))).supply.Distinct := by
    decide
  have fits : dismissed.CooldownFits t :=
    Queue.cooldownFits_of_policy (.inr (show dismissed.queue.policy.max.nanos + _ ≤ _ by decide)) t _
  exact ⟨dismissed, reachable, by decide, by decide, t, task, retry, fits,
    ((failures_are_recorded_as_long_as_cooldowns_fit reachable (by decide)).1 t task running "E2" none
      distinct).1 fits⟩

/-- Cooldowns of as many seconds as there are, with some jitter on top. -/
def longestWaits : Config :=
  { Config.default with retry := ⟨3, .ofSeconds Word.max64, .ofSeconds Word.max64, 0.1⟩ }

example : longestWaits.validate = .ok () := by decide +kernel

/-- A task runs under the longest cooldowns, and for an hour when the clock is read next. -/
def underLongestWaits : Engine :=
  (Engine.ofConfig longestWaits (.inMemory 100) .empty .parked
    ⟨fun n => ⟨3600 * min n 2, 0⟩, fun n => ⟨.ofNat n⟩, fun n => ⟨.ofNat n⟩, fun _ => Word.max64, 0, 0, 0, 0⟩).perform
    (.submit ⟨.all, "ops", none, none⟩)

theorem underLongestWaits_reachable : underLongestWaits.Reachable :=
  (Reachable.start ..).call _ (by decide)

/-- The failure of a task ends the program where the cooldown for it is longer than the longest span. -/
theorem failure_lost_behind_the_longest_wait :
    ¬ ∀ e : Engine, e.Reachable → e.isUp = true → ∀ t ∈ e.registry.tasks, t.status = .running →
      ∀ code message, (e.perform (.recordOutcome t.id (.failure code message))).supply.Distinct →
        ∃ after done event m, e.recordOutcome t.id (.failure code message) = (after, .ok done) ∧
          after.isUp = true ∧ e.FailureRecorded after t code event m := by
  intro recorded
  obtain ⟨t, task, running, distinct, ended⟩ : ∃ t ∈ underLongestWaits.registry.tasks, t.status = .running ∧
      (underLongestWaits.perform (.recordOutcome t.id (.failure "E" none))).supply.Distinct ∧
      (underLongestWaits.recordOutcome t.id (.failure "E" none)).1.isUp = false := by
    decide +kernel
  obtain ⟨after, _, _, _, result, up, _⟩ :=
    recorded _ underLongestWaits_reachable (by decide) t task running "E" none distinct
  rw [result] at ended
  exact absurd up (Bool.eq_false_iff.mp ended)

end Engine

end Reindexing
