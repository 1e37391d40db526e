import Reindexing.History
import Reindexing.Time.Span

/-!
# Registry

The registry holds every task ever submitted and its history. A task is only
accepted while no active task overlaps its scope, so active tasks never overlap.
Every change is one atomic step that also appends the event of the transition.
-/
namespace Reindexing

structure Registry where
  /-- The tasks in the order of their submission. -/
  tasks : List Task
  history : HistoryLog
  deriving DecidableEq, Repr, Inhabited

/-- What is asked for when a task is submitted. -/
structure Submission where
  scope : Scope
  actor : String
  note : Option String
  trace : Option TraceLink
  retryOf : Option EntryId
  deriving DecidableEq, Repr

/-- A task after a transition, with the event of that transition. -/
structure Transition where
  task : Task
  event : HistoryEvent
  deriving DecidableEq, Repr

namespace Registry

def empty : Registry := ⟨[], .empty⟩

def find? (r : Registry) (id : TaskId) : Option Task := r.tasks.find? (·.id = id)

def get (r : Registry) (id : TaskId) : Except Refusal Task :=
  match r.find? id with
  | some task => .ok task
  | none => .error (.taskNotFound id)

/-- The active tasks whose scope overlaps `scope`. -/
def activeOverlapping (r : Registry) (scope : Scope) : List Task :=
  r.tasks.filter fun t => t.status.isActive && t.scope.overlaps scope

/-- Puts a task in the place of the one with its identifier. -/
def replace (r : Registry) (task : Task) : List Task :=
  r.tasks.map fun t => if t.id = task.id then task else t

/-- The task that a submission creates. -/
def newTask (id : TaskId) (s : Submission) (now : Instant) : Task :=
  let task := ((Task.create id s.scope s.actor now).withNote s.note).withTrace s.trace
  match s.retryOf with
  | some entry => task.asRetryOf entry
  | none => task

/-- Creates a task for a scope that no active task overlaps. -/
def submit (r : Registry) (id : TaskId) (s : Submission) (now : Instant) :
    Except Refusal (Registry × Transition) :=
  match r.activeOverlapping s.scope with
  | active :: _ => .error (.scopeBusy s.scope active.id)
  | [] =>
    let task := newTask id s now
    let (history, event) := r.history.append task.id task.status now task.note task.trace
    .ok (⟨r.tasks ++ [task], history⟩, ⟨task, event⟩)

/-- Moves a waiting task to running. -/
def markRunning (r : Registry) (id : TaskId) (trace : Option TraceLink) (now : Instant) :
    Except Refusal (Registry × Transition) := do
  let task ← (← r.get id).start now
  let (history, event) := r.history.append id task.status now none trace
  pure (⟨r.replace task, history⟩, ⟨task, event⟩)

/-- Records the outcome of a running task; the event has the time of the finish. -/
def recordOutcome (r : Registry) (id : TaskId) (outcome : Outcome) (note : Option String)
    (trace : Option TraceLink) (now : Instant) : Except Refusal (Registry × Transition) := do
  let task ← (← r.get id).finish outcome now
  let (history, event) := r.history.append id task.status (task.finishedAt.getD now) note trace
  pure (⟨r.replace task, history⟩, ⟨task, event⟩)

def grouped (r : Registry) (id : TaskId) : Option TaskHistory := do
  let task ← r.find? id
  let latest ← r.history.latest id
  some ⟨task, latest, r.history.timeline id⟩

def taskHistory (r : Registry) (id : TaskId) : Except Refusal TaskHistory :=
  match r.grouped id with
  | some group => .ok group
  | none => .error (.taskNotFound id)

/-- The selected tasks with their histories, the most recently changed first. -/
def listHistory (r : Registry) (filter : HistoryFilter) : List TaskHistory :=
  (r.history.tasksByRecency.filterMap r.grouped).filter fun g => filter.matches g.task g.latest

/-- The running tasks that started at least `timeout` before `now`. -/
def timedOut (r : Registry) (timeout : Span) (now : Instant) : List TaskId :=
  match timeout.toDelta? with
  | none => []
  | some delta =>
    (r.tasks.filter fun t =>
      t.status = .running && t.startedAt.any fun started => decide (delta ≤ now - started)).map (·.id)

def countByStatus (r : Registry) (status : TaskStatus) : Nat :=
  (r.tasks.filter (·.status = status)).length

def size (r : Registry) : Nat := r.tasks.length

end Registry

end Reindexing
