import Reindexing.Text.Blank
import Reindexing.Text.Lowercase

/-!
# Task status

A task is queued, or retrying when a retry created it, then running, then
completed, partly completed or failed. The last three are terminal; a task that
is not terminal is active and holds the lock on its scope.
-/
namespace Reindexing

inductive TaskStatus where
  | queued
  | retrying
  | running
  | completed
  | partly
  | failed
  deriving DecidableEq, Repr, Inhabited

namespace TaskStatus

def every : List TaskStatus := [.queued, .retrying, .running, .completed, .partly, .failed]

def name : TaskStatus → String
  | .queued => "queued"
  | .retrying => "retrying"
  | .running => "running"
  | .completed => "completed"
  | .partly => "partial"
  | .failed => "failed"

def isTerminal : TaskStatus → Bool
  | .completed | .partly | .failed => true
  | _ => false

def isActive (s : TaskStatus) : Bool := !s.isTerminal

/-- The transitions of a task. -/
def canBecome : TaskStatus → TaskStatus → Bool
  | .queued, .running | .retrying, .running => true
  | .running, next => next.isTerminal
  | _, _ => false

/-- The status with this name, up to blanks around it and ASCII case. -/
def ofText? (s : String) : Option TaskStatus :=
  every.find? fun status => Text.equalsIgnoringCase status.name (Text.trim s)

end TaskStatus

end Reindexing
