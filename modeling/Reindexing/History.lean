import Reindexing.Task

/-!
# History

Every transition of a task appends one event to the log; events are never
changed or removed. An event's sequence number is its position in the log, and
the times of one task's events never go backwards. An index beside the events
leads from a task to the positions of its events.
-/
namespace Reindexing

structure HistoryEvent where
  sequence : Nat
  task : TaskId
  status : TaskStatus
  timestamp : Instant
  note : Option String
  trace : Option TraceLink
  deriving DecidableEq, Repr

structure HistoryLog where
  /-- Oldest first. -/
  events : List HistoryEvent
  /-- Where the events of each task stand among all events, oldest first. -/
  byTask : List (TaskId × List Nat)
  deriving DecidableEq, Repr, Inhabited

namespace HistoryLog

def empty : HistoryLog := ⟨[], []⟩

/-- The positions of the events of one task, oldest first. -/
def positions (log : HistoryLog) (task : TaskId) : List Nat :=
  ((log.byTask.find? (·.1 = task)).map (·.2)).getD []

/-- The events of one task, newest first. -/
def timeline (log : HistoryLog) (task : TaskId) : List HistoryEvent :=
  (log.positions task).reverse.filterMap (log.events[·]?)

/-- The newest event at one of some positions, which are given oldest first. -/
def newestOf (log : HistoryLog) (positions : List Nat) : Option HistoryEvent :=
  positions.getLast?.bind (log.events[·]?)

def latest (log : HistoryLog) (task : TaskId) : Option HistoryEvent := log.newestOf (log.positions task)

/-- Adds a position to those of a task. -/
def indexed (task : TaskId) (position : Nat) : List (TaskId × List Nat) → List (TaskId × List Nat)
  | [] => [(task, [position])]
  | (t, positions) :: rest =>
    if t = task then (t, positions ++ [position]) :: rest else (t, positions) :: indexed task position rest

/-- The log with one more event. -/
def add (log : HistoryLog) (event : HistoryEvent) : HistoryLog :=
  ⟨log.events ++ [event], indexed event.task log.events.length log.byTask⟩

@[simp] theorem events_add (log : HistoryLog) (event : HistoryEvent) :
    (log.add event).events = log.events ++ [event] := rfl

/-- The event that `append` adds. -/
def nextEvent (log : HistoryLog) (task : TaskId) (status : TaskStatus) (time : Instant)
    (note : Option String) (trace : Option TraceLink) : HistoryEvent :=
  let timestamp := match log.latest task with
    | some last => max time last.timestamp
    | none => time
  ⟨log.events.length, task, status, timestamp, note, trace⟩

def append (log : HistoryLog) (task : TaskId) (status : TaskStatus) (time : Instant)
    (note : Option String) (trace : Option TraceLink) : HistoryLog × HistoryEvent :=
  let event := log.nextEvent task status time note trace
  (log.add event, event)

/-- The tasks with events, the one with the newest event first. -/
def tasksByRecency (log : HistoryLog) : List TaskId :=
  let newest := log.byTask.filterMap fun (task, positions) =>
    (log.newestOf positions).map fun event => (event.sequence, task)
  (newest.mergeSort fun a b => decide (b.1 ≤ a.1)).map (·.2)

end HistoryLog

/-- A task with its timeline, newest event first. -/
structure TaskHistory where
  task : Task
  latest : HistoryEvent
  events : List HistoryEvent
  deriving DecidableEq, Repr

/-- Selects tasks by their current status and by a text; no statuses select every status. -/
structure HistoryFilter where
  statuses : List TaskStatus
  search : Option String
  deriving DecidableEq, Repr

def HistoryFilter.any : HistoryFilter := ⟨[], none⟩

def HistoryFilter.matches (filter : HistoryFilter) (task : Task) (latest : HistoryEvent) : Bool :=
  (filter.statuses.isEmpty || filter.statuses.contains latest.status) &&
    filter.search.all task.matchesText

end Reindexing
