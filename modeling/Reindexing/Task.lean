import Reindexing.Evidence
import Reindexing.Refusal
import Reindexing.Trace

/-!
# Tasks

One attempt at reindexing a scope. A task is started once and finished once; a
finished task never changes again. Finishing sets the duration in whole
milliseconds and, by outcome, either the evidence or the error.
-/
namespace Reindexing

/-- What a run reports. -/
inductive Outcome where
  | success (evidence : Evidence)
  | partly (evidence : Evidence)
  | failure (errorCode : String) (message : Option String)
  deriving DecidableEq, Repr

namespace Outcome

/-- The outcome of a task that ran too long. -/
def timeout : Outcome := .failure "timeout" (some "execution timeout exceeded")

/-- The terminal status that an outcome leads to. -/
def status : Outcome → TaskStatus
  | .success _ => .completed
  | .partly _ => .partly
  | .failure .. => .failed

def isFailure : Outcome → Bool
  | .failure .. => true
  | _ => false

/-- The outcome with at most `cap` samples. -/
def track (cap : Nat) : Outcome → Outcome
  | .success e => .success (e.track cap)
  | .partly e => .partly (e.track cap)
  | o => o

end Outcome

structure Task where
  id : TaskId
  scope : Scope
  actor : String
  note : Option String
  status : TaskStatus
  createdAt : Instant
  startedAt : Option Instant
  finishedAt : Option Instant
  durationMillis : Option Int
  trace : Option TraceLink
  evidence : Option Evidence
  errorCode : Option String
  errorMessage : Option String
  /-- The queue entry whose retry this task is. -/
  retryOf : Option EntryId
  deriving DecidableEq, Repr

namespace Task

/-- A queued task. -/
def create (id : TaskId) (scope : Scope) (actor : String) (now : Instant) : Task :=
  { id, scope, actor, note := none, status := .queued, createdAt := now, startedAt := none,
    finishedAt := none, durationMillis := none, trace := none, evidence := none, errorCode := none,
    errorMessage := none, retryOf := none }

/-- The task with a note, unless the note is blank. -/
def withNote (t : Task) (note : Option String) : Task :=
  { t with note := note.filter fun n => !Text.isBlankText n }

def withTrace (t : Task) (trace : Option TraceLink) : Task := { t with trace }

/-- The task as the retry of a queue entry. -/
def asRetryOf (t : Task) (entry : EntryId) : Task :=
  { t with retryOf := some entry, status := .retrying }

def transition (t : Task) (next : TaskStatus) : Except Refusal Task :=
  if t.status.isTerminal then .error (.outcomeRecorded t.id t.status)
  else if t.status.canBecome next then .ok { t with status := next }
  else .error (.invalidTransition t.id t.status next)

/-- Hands the task to the runner. -/
def start (t : Task) (now : Instant) : Except Refusal Task := do
  let t ← t.transition .running
  pure { t with startedAt := some now }

/-- Records what the runner reported. The finish never comes before the start. -/
def finish (t : Task) (outcome : Outcome) (now : Instant) : Except Refusal Task := do
  let t ← t.transition outcome.status
  let started := t.startedAt.getD now
  let finished := max now started
  let t := { t with
    finishedAt := some finished
    durationMillis := some (Instant.wholeMillis (finished - started)) }
  match outcome with
  | .success evidence | .partly evidence => pure { t with evidence := some evidence }
  | .failure errorCode message => pure { t with errorCode := some errorCode, errorMessage := message }

/-- Whether a text occurs in the actor, the scope or the error code, up to case. -/
def matchesText (t : Task) (query : String) : Bool :=
  let needle := Text.lowercase (Text.trim query)
  needle == "" || Text.contains (Text.lowercase t.actor) needle || t.scope.matchesText needle ||
    t.errorCode.any fun code => Text.contains (Text.lowercase code) needle

end Task

end Reindexing
