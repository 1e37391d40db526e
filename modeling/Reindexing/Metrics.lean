import Reindexing.Decimal.Layout
import Reindexing.Error
import Reindexing.Queue.Entry

/-!
# Metrics

Counters, gauges and durations that describe what the program has done. A
series is a name with labels; it exists once something was recorded in it. The
durations of finished tasks are sums of batches: what was recorded since the
metrics were last read forms one batch.
-/
namespace Reindexing

structure Series where
  name : String
  labels : List (String × String)
  deriving DecidableEq, Repr

structure Metrics where
  counters : List (Series × Nat)
  gauges : List (String × Nat)
  /-- The durations in milliseconds by terminal status, in batches, oldest first. -/
  durations : List (TaskStatus × List (List Int))
  deriving DecidableEq, Repr, Inhabited

namespace Metrics

def empty : Metrics := ⟨[], [], []⟩

/-- Changes the value under a key; the change starts from `zero` where there is none. -/
def adjust [DecidableEq κ] (key : κ) (zero : α) (change : α → α) : List (κ × α) → List (κ × α)
  | [] => [(key, change zero)]
  | (k, a) :: rest => if k = key then (k, change a) :: rest else (k, a) :: adjust key zero change rest

def increment (m : Metrics) (series : Series) : Metrics :=
  { m with counters := adjust series 0 (· + 1) m.counters }

def setGauge (m : Metrics) (name : String) (value : Nat) : Metrics :=
  { m with gauges := adjust name 0 (fun _ => value) m.gauges }

/-- The value of a counter; nothing recorded reads zero. -/
def counter (m : Metrics) (series : Series) : Nat := ((m.counters.find? (·.1 = series)).map (·.2)).getD 0

/-- The value of a gauge; one never set reads zero. -/
def gauge (m : Metrics) (name : String) : Nat := ((m.gauges.find? (·.1 = name)).map (·.2)).getD 0

def submittedSeries (isRetry : Bool) : Series :=
  ⟨"reindex_tasks_submitted_total", [("retry", if isRetry then "true" else "false")]⟩

def finishedSeries (status : TaskStatus) : Series := ⟨"reindex_tasks_finished_total", [("status", status.name)]⟩

def retriesSeries (mode : RetryMode) : Series := ⟨"reindex_retries_total", [("mode", mode.name)]⟩

def timeoutsSeries : Series := ⟨"reindex_watchdog_timeouts_total", []⟩

def errorsSeries (code : ErrorCode) : Series :=
  ⟨"reindex_errors_total",
    [("code", code.title), ("category", code.category), ("severity", code.severity.title)]⟩

def queueDepthName : String := "reindex_queue_depth"

def runningName : String := "reindex_tasks_running"

def durationName : String := "reindex_task_duration_seconds"

def countError (m : Metrics) (code : ErrorCode) : Metrics := m.increment (errorsSeries code)

/-- Adds a duration to the batch that is open. -/
def addToBatch (millis : Int) : List (List Int) → List (List Int)
  | [] => [[millis]]
  | [batch] => [batch ++ [millis]]
  | batch :: rest => batch :: addToBatch millis rest

/-- Counts a task that reached a terminal status, and its duration if it has one. -/
def countFinished (m : Metrics) (status : TaskStatus) (millis : Option Int) : Metrics :=
  let m := m.increment (finishedSeries status)
  match millis with
  | some millis => { m with durations := adjust status [] (addToBatch millis) m.durations }
  | none => m

/-- Closes the batches that are open. -/
def closeBatches (m : Metrics) : Metrics :=
  { m with durations := m.durations.map fun (status, batches) =>
      (status, if batches.getLast? = some [] then batches else batches ++ [[]]) }

end Metrics

end Reindexing
