import Reindexing.Proofs.Keyed
import Reindexing.Proofs.Task.Transitions
import Reindexing.Registry

/-!
# Transitions of the registry

What the three calls of the registry do, said once. A submission adds one waiting
task, `markRunning` and `recordOutcome` put one changed task in the place of the
old one, and each appends exactly one event. An error leaves the registry as it
was; `perform` makes that part of the meaning of a call. `Reachable` holds the
registries that any sequence of calls with fresh identifiers leads to.
-/
namespace Reindexing.Registry

variable {r after : Registry} {id : TaskId} {tr : Transition} {now : Instant}

theorem replace_eq (r : Registry) (task : Task) :
    r.replace task = Keyed.replaceBy (·.id) task r.tasks := rfl

theorem mem_of_find? {t : Task} (found : r.find? id = some t) : t ∈ r.tasks ∧ t.id = id :=
  Keyed.mem_of_find? found

theorem find?_eq_none : r.find? id = none ↔ ∀ t ∈ r.tasks, t.id ≠ id :=
  Keyed.find?_eq_none

theorem find?_of_mem (unique : (r.tasks.map (·.id)).Nodup) {t : Task} (member : t ∈ r.tasks) :
    r.find? t.id = some t :=
  Keyed.find?_of_mem unique member

/-- The registry after a task changed, with the event of the change. -/
def recorded (r : Registry) (task : Task) (event : HistoryEvent) : Registry × Transition :=
  (⟨r.replace task, r.history.add event⟩, ⟨task, event⟩)

/-- The task that a submission creates waits, and keeps what was asked for. -/
theorem newTask_spec (id : TaskId) (s : Submission) (now : Instant) :
    (newTask id s now).id = id ∧ (newTask id s now).scope = s.scope ∧
      (newTask id s now).retryOf = s.retryOf ∧ (newTask id s now).status.isWaiting = true ∧
      (newTask id s now).startedAt = none := by
  unfold newTask
  cases s.retryOf <;> exact ⟨rfl, rfl, rfl, rfl, rfl⟩

@[simp] theorem newTask_id (id : TaskId) (s : Submission) (now : Instant) :
    (newTask id s now).id = id := (newTask_spec id s now).1

@[simp] theorem newTask_scope (id : TaskId) (s : Submission) (now : Instant) :
    (newTask id s now).scope = s.scope := (newTask_spec id s now).2.1

@[simp] theorem newTask_retryOf (id : TaskId) (s : Submission) (now : Instant) :
    (newTask id s now).retryOf = s.retryOf := (newTask_spec id s now).2.2.1

@[simp] theorem newTask_waiting (id : TaskId) (s : Submission) (now : Instant) :
    (newTask id s now).status.isWaiting = true := (newTask_spec id s now).2.2.2.1

/-- The event of a submission. -/
def submitEvent (r : Registry) (task : Task) (now : Instant) : HistoryEvent :=
  r.history.nextEvent task.id task.status now task.note task.trace

/-- A submission is accepted exactly when no active task overlaps its scope. -/
theorem submit_ok_iff {s : Submission} :
    r.submit id s now = .ok (after, tr) ↔
      r.activeOverlapping s.scope = [] ∧
      tr = ⟨newTask id s now, r.submitEvent (newTask id s now) now⟩ ∧
      after = ⟨r.tasks ++ [tr.task], r.history.add tr.event⟩ := by
  unfold submit
  split
  · next busy => simp [busy]
  · next free =>
    simp only [HistoryLog.append, Except.ok.injEq, Prod.mk.injEq, free, true_and]
    constructor
    · rintro ⟨rfl, rfl⟩
      exact ⟨rfl, rfl⟩
    · rintro ⟨rfl, rfl⟩
      exact ⟨rfl, rfl⟩

/-- A submitted task is found under its identifier, and waits. -/
theorem find?_submitted {s : Submission} (unique : (r.tasks.map (·.id)).Nodup)
    (fresh : ∀ t ∈ r.tasks, t.id ≠ id) (success : r.submit id s now = .ok (after, tr)) :
    after.find? tr.task.id = some tr.task ∧ tr.task.status.isWaiting = true := by
  obtain ⟨_, rfl, rfl⟩ := submit_ok_iff.mp success
  refine ⟨find?_of_mem ?_ (List.mem_append_right _ (List.mem_singleton_self _)), newTask_waiting id s now⟩
  refine Keyed.nodup_map_append unique ?_
  rwa [newTask_id]

/-- A refused submission names an active task in its way. -/
theorem submit_error {s : Submission} {e : Refusal} (failure : r.submit id s now = .error e) :
    ∃ active ∈ r.activeOverlapping s.scope, e = .scopeBusy s.scope active.id := by
  unfold submit at failure
  split at failure
  · next active rest busy =>
    refine ⟨active, by simp [busy], ?_⟩
    exact (Except.error.inj failure).symm
  · cases failure

theorem mem_activeOverlapping {scope : Scope} {t : Task} :
    t ∈ r.activeOverlapping scope ↔
      t ∈ r.tasks ∧ t.status.isActive = true ∧ t.scope.overlaps scope = true := by
  simp [activeOverlapping]

theorem markRunning_of_find? {t : Task} (found : r.find? id = some t) (trace : Option TraceLink) :
    r.markRunning id trace now =
      (t.start now).map fun task =>
        r.recorded task (r.history.nextEvent id task.status now none trace) := by
  simp only [markRunning, get, found, bind, Except.bind]
  cases t.start now <;> rfl

theorem markRunning_ok {trace : Option TraceLink}
    (success : r.markRunning id trace now = .ok (after, tr)) :
    ∃ t, r.find? id = some t ∧ t.status.isWaiting = true ∧
      (after, tr) = r.recorded (t.started now) (r.history.nextEvent id .running now none trace) := by
  cases found : r.find? id with
  | none => simp [markRunning, get, found, bind, Except.bind] at success
  | some t =>
    rw [markRunning_of_find? found] at success
    cases step : t.start now with
    | error e => simp [step, Except.map] at success
    | ok task =>
      obtain ⟨waiting, rfl⟩ := Task.start_ok step
      simp only [step, Except.map, Except.ok.injEq] at success
      exact ⟨t, rfl, waiting, success.symm⟩

/-- A waiting task can always be marked as running. -/
theorem markRunning_of_waiting {t : Task} (found : r.find? id = some t)
    (waiting : t.status.isWaiting = true) (trace : Option TraceLink) :
    r.markRunning id trace now =
      .ok (r.recorded (t.started now) (r.history.nextEvent id .running now none trace)) := by
  rw [markRunning_of_find? found, Task.start_of_waiting waiting]
  rfl

theorem recordOutcome_of_find? {t : Task} (found : r.find? id = some t) (o : Outcome)
    (note : Option String) (trace : Option TraceLink) :
    r.recordOutcome id o note trace now =
      (t.finish o now).map fun task =>
        r.recorded task
          (r.history.nextEvent id task.status (task.finishedAt.getD now) note trace) := by
  simp only [recordOutcome, get, found, bind, Except.bind]
  cases t.finish o now <;> rfl

theorem recordOutcome_ok {o : Outcome} {note : Option String} {trace : Option TraceLink}
    (success : r.recordOutcome id o note trace now = .ok (after, tr)) :
    ∃ t, r.find? id = some t ∧ t.status = .running ∧
      (after, tr) = r.recorded (t.ended o now)
        (r.history.nextEvent id o.status (t.endTime now) note trace) := by
  cases found : r.find? id with
  | none => simp [recordOutcome, get, found, bind, Except.bind] at success
  | some t =>
    rw [recordOutcome_of_find? found] at success
    cases step : t.finish o now with
    | error e => simp [step, Except.map] at success
    | ok task =>
      obtain ⟨running, rfl⟩ := Task.finish_ok step
      simp only [step, Except.map, Except.ok.injEq, Task.ended_status, Task.ended_finishedAt,
        Option.getD_some] at success
      exact ⟨t, rfl, running, success.symm⟩

/-- A running task accepts every outcome. -/
theorem recordOutcome_of_running {t : Task} (found : r.find? id = some t)
    (running : t.status = .running) (o : Outcome) (note : Option String)
    (trace : Option TraceLink) :
    r.recordOutcome id o note trace now =
      .ok (r.recorded (t.ended o now)
        (r.history.nextEvent id o.status (t.endTime now) note trace)) := by
  rw [recordOutcome_of_find? found, Task.finish_of_running running]
  simp [Except.map]

/-! ## Calls and runs -/

/-- A call of the registry, with the identifier and the time that it takes from outside. -/
inductive Call where
  | submit (id : TaskId) (s : Submission) (now : Instant)
  | markRunning (id : TaskId) (trace : Option TraceLink) (now : Instant)
  | recordOutcome (id : TaskId) (o : Outcome) (note : Option String) (trace : Option TraceLink)
      (now : Instant)

/-- What a call answers, beside the registry that it leaves if it succeeds. -/
def answer (r : Registry) : Call → Except Refusal (Registry × Transition)
  | .submit id s now => r.submit id s now
  | .markRunning id trace now => r.markRunning id trace now
  | .recordOutcome id o note trace now => r.recordOutcome id o note trace now

/-- A call with the registry after it; a refused call changes nothing. -/
def perform (r : Registry) (c : Call) : Registry × Except Refusal Transition :=
  match r.answer c with
  | .ok (after, tr) => (after, .ok tr)
  | .error e => (r, .error e)

/-- A submission brings an identifier that no task has. -/
def Call.IsFresh (r : Registry) : Call → Prop
  | .submit id _ _ => ∀ t ∈ r.tasks, t.id ≠ id
  | _ => True

instance (r : Registry) : (c : Call) → Decidable (c.IsFresh r)
  | .submit id _ _ => inferInstanceAs (Decidable (∀ t ∈ r.tasks, t.id ≠ id))
  | .markRunning .. | .recordOutcome .. => isTrue trivial

/-- The registries that a sequence of calls leads to from `start`. -/
inductive Leads (start : Registry) : Registry → Prop where
  | refl : Leads start start
  | call {r : Registry} (c : Call) : Leads start r → c.IsFresh r → Leads start (r.perform c).1

/-- The registries that occur in runs. -/
def Reachable (r : Registry) : Prop := Leads .empty r

end Reindexing.Registry
