import Reindexing.Task

/-!
# Queue entries

An entry keeps the books on the retries of one scope. In automatic mode it may
be retried while attempts are left and no cooldown is running; in manual mode an
operator decides alone. An entry whose retry is running is never eligible.
-/
namespace Reindexing

inductive QueueStatus where
  | queued
  | running
  | failed
  | completed
  deriving DecidableEq, Repr, Inhabited

namespace QueueStatus

def every : List QueueStatus := [.queued, .running, .failed, .completed]

def name : QueueStatus → String
  | .queued => "queued"
  | .running => "running"
  | .failed => "failed"
  | .completed => "completed"

/-- The status with this name, up to blanks around it and ASCII case. -/
def ofText? (s : String) : Option QueueStatus :=
  every.find? fun status => Text.equalsIgnoringCase status.name (Text.trim s)

end QueueStatus

/-- Who decides when an entry is retried. -/
inductive RetryMode where
  | auto
  | manual
  deriving DecidableEq, Repr, Inhabited

def RetryMode.name : RetryMode → String
  | .auto => "auto"
  | .manual => "manual"

def RetryMode.every : List RetryMode := [.auto, .manual]

/-- What operators see of an entry. -/
inductive RetryState where
  | eligible
  | coolingDown
  | autoExhausted
  | inFlight
  | manual
  deriving DecidableEq, Repr, Inhabited

def RetryState.name : RetryState → String
  | .eligible => "eligible"
  | .coolingDown => "cooling_down"
  | .autoExhausted => "auto_exhausted"
  | .inFlight => "in_flight"
  | .manual => "manual"

def RetryState.every : List RetryState := [.eligible, .coolingDown, .autoExhausted, .inFlight, .manual]

structure QueueEntry where
  id : EntryId
  /-- The task whose failure created the entry. -/
  originalTask : TaskId
  /-- The retry that is running. -/
  currentTask : Option TaskId
  /-- The task that failed last for the scope. -/
  lastTask : TaskId
  scope : Scope
  status : QueueStatus
  attempts : Nat
  maxAttempts : Nat
  mode : RetryMode
  cooldownUntil : Option Instant
  lastAttemptAt : Option Instant
  lastError : Option String
  note : Option String
  createdAt : Instant
  updatedAt : Option Instant
  deriving DecidableEq, Repr

namespace QueueEntry

/-- Whether a running cooldown has ended, so that it no longer counts. -/
def cooldownElapsed (e : QueueEntry) (now : Instant) : Bool :=
  e.cooldownUntil.any fun ending => decide (ending ≤ now)

def isEligible (e : QueueEntry) (now : Instant) : Bool :=
  if e.status = .running then false
  else
    match e.mode with
    | .manual => true
    | .auto => decide (e.attempts < e.maxAttempts) && e.cooldownUntil.all fun ending => decide (ending ≤ now)

def isAutoExhausted (e : QueueEntry) : Bool :=
  e.mode = .auto && decide (e.maxAttempts ≤ e.attempts)

def retryState (e : QueueEntry) (now : Instant) : RetryState :=
  if e.status = .running then .inFlight
  else if e.mode = .manual then .manual
  else if e.isAutoExhausted then .autoExhausted
  else if e.isEligible now then .eligible
  else .coolingDown

/-- Automatic attempts left; none are counted in manual mode. -/
def attemptsRemaining (e : QueueEntry) : Option Nat :=
  match e.mode with
  | .auto => some (e.maxAttempts - e.attempts)
  | .manual => none

def lastTouched (e : QueueEntry) : Instant := e.updatedAt.getD e.createdAt

/-- Whether a text occurs in the scope, the last error or the note, up to case. -/
def matchesText (e : QueueEntry) (query : String) : Bool :=
  let needle := Text.lowercase (Text.trim query)
  let occursIn (s : String) := Text.contains (Text.lowercase s) needle
  needle == "" || e.scope.matchesText needle || e.lastError.any occursIn || e.note.any occursIn

def touch (e : QueueEntry) (now : Instant) : QueueEntry := { e with updatedAt := some now }

/-- The entry without a cooldown that has ended. -/
def clearElapsed (e : QueueEntry) (now : Instant) : QueueEntry :=
  if e.cooldownElapsed now then { e with cooldownUntil := none } else e

end QueueEntry

/-- An entry with what operators see of it at some time. -/
structure EntryView where
  entry : QueueEntry
  state : RetryState
  eligible : Bool
  attemptsRemaining : Option Nat
  deriving DecidableEq, Repr

def QueueEntry.view (e : QueueEntry) (now : Instant) : EntryView :=
  ⟨e, e.retryState now, e.isEligible now, e.attemptsRemaining⟩

/-- Selects entries by status and by a text; no statuses select every status. -/
structure QueueFilter where
  statuses : List QueueStatus
  search : Option String
  deriving DecidableEq, Repr

def QueueFilter.any : QueueFilter := ⟨[], none⟩

def QueueFilter.matches (filter : QueueFilter) (e : QueueEntry) : Bool :=
  (filter.statuses.isEmpty || filter.statuses.contains e.status) && filter.search.all e.matchesText

end Reindexing
