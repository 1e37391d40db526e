import Reindexing.Task

/-!
# Transitions of tasks

Closed forms of the two transitions of a task. `started` and `ended` are the task
after it was handed to the runner and after its outcome; `start_eq` and
`finish_eq` say exactly when the transitions give them, so that no later proof
opens a transition. Identifier, scope and retried entry never change.
-/
namespace Reindexing

namespace TaskStatus

/-- Whether a task has been created and not yet handed to the runner. -/
def isWaiting : TaskStatus → Bool
  | .queued | .retrying => true
  | _ => false

theorem isActive_iff (s : TaskStatus) : s.isActive = true ↔ s.isWaiting = true ∨ s = .running := by
  cases s <;> decide

theorem not_active_of_terminal {s : TaskStatus} (terminal : s.isTerminal = true) :
    s.isActive = false := by
  simp [isActive, terminal]

theorem canBecome_running (s : TaskStatus) : s.canBecome .running = s.isWaiting := by
  cases s <;> rfl

theorem isActive_of_waiting {s : TaskStatus} (waiting : s.isWaiting = true) : s.isActive = true :=
  (isActive_iff s).mpr (.inl waiting)

theorem not_terminal_of_waiting {s : TaskStatus} (waiting : s.isWaiting = true) : s.isTerminal = false := by
  cases s with
  | queued | retrying => rfl
  | running | completed | partly | failed => cases waiting

theorem not_waiting_of_terminal {s : TaskStatus} (terminal : s.isTerminal = true) : s.isWaiting = false := by
  cases s with
  | completed | partly | failed => rfl
  | queued | retrying | running => cases terminal

end TaskStatus

theorem Outcome.status_terminal (o : Outcome) : o.status.isTerminal = true := by
  cases o <;> rfl

theorem Outcome.status_not_waiting (o : Outcome) : o.status.isWaiting = false := by
  cases o <;> rfl

namespace Task

/-- The task in the hands of the runner. -/
def started (t : Task) (now : Instant) : Task := { t with status := .running, startedAt := some now }

/-- The instant at which a task ends: now, but never before its start. -/
def endTime (t : Task) (now : Instant) : Instant := max now (t.startedAt.getD now)

/-- The task after its outcome. -/
def ended (t : Task) (o : Outcome) (now : Instant) : Task :=
  let t := { t with
    status := o.status
    finishedAt := some (t.endTime now)
    durationMillis := some (Instant.wholeMillis (t.endTime now - t.startedAt.getD now)) }
  match o with
  | .success evidence | .partly evidence => { t with evidence := some evidence }
  | .failure errorCode message => { t with errorCode := some errorCode, errorMessage := message }

@[simp] theorem started_id (t : Task) (now : Instant) : (t.started now).id = t.id := rfl
@[simp] theorem started_retryOf (t : Task) (now : Instant) : (t.started now).retryOf = t.retryOf := rfl
@[simp] theorem started_status (t : Task) (now : Instant) : (t.started now).status = .running := rfl

section
variable (t : Task) (o : Outcome) (now : Instant)

@[simp] theorem ended_id : (t.ended o now).id = t.id := by cases o <;> rfl
@[simp] theorem ended_scope : (t.ended o now).scope = t.scope := by cases o <;> rfl
@[simp] theorem ended_retryOf : (t.ended o now).retryOf = t.retryOf := by cases o <;> rfl
@[simp] theorem ended_status : (t.ended o now).status = o.status := by cases o <;> rfl
@[simp] theorem ended_finishedAt : (t.ended o now).finishedAt = some (t.endTime now) := by
  cases o <;> rfl

end

/-- A waiting task can be started; a running or finished one is refused. -/
theorem start_eq (t : Task) (now : Instant) :
    t.start now =
      if t.status.isTerminal then .error (.outcomeRecorded t.id t.status)
      else if t.status.isWaiting then .ok (t.started now)
      else .error (.invalidTransition t.id t.status .running) := by
  unfold start transition
  rw [TaskStatus.canBecome_running]
  split
  · rfl
  · split <;> rfl

/-- A running task can be ended by any outcome; every other task is refused. -/
theorem finish_eq (t : Task) (o : Outcome) (now : Instant) :
    t.finish o now =
      if t.status.isTerminal then .error (.outcomeRecorded t.id t.status)
      else if t.status = .running then .ok (t.ended o now)
      else .error (.invalidTransition t.id t.status o.status) := by
  unfold finish transition
  cases status : t.status <;> cases o <;> rfl

theorem start_ok {t after : Task} {now : Instant} (success : t.start now = .ok after) :
    t.status.isWaiting = true ∧ after = t.started now := by
  rw [start_eq] at success
  split at success
  · cases success
  · split at success
    · next waiting => exact ⟨waiting, (Except.ok.inj success).symm⟩
    · cases success

theorem finish_ok {t after : Task} {o : Outcome} {now : Instant}
    (success : t.finish o now = .ok after) : t.status = .running ∧ after = t.ended o now := by
  rw [finish_eq] at success
  split at success
  · cases success
  · split at success
    · next running => exact ⟨running, (Except.ok.inj success).symm⟩
    · cases success

theorem start_of_waiting {t : Task} (waiting : t.status.isWaiting = true) (now : Instant) :
    t.start now = .ok (t.started now) := by
  simp [start_eq, TaskStatus.not_terminal_of_waiting waiting, waiting]

theorem finish_of_running {t : Task} (running : t.status = .running) (o : Outcome) (now : Instant) :
    t.finish o now = .ok (t.ended o now) := by
  simp [finish_eq, running, TaskStatus.isTerminal]

end Task

end Reindexing
