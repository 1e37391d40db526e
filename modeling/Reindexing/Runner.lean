import Reindexing.Task
import Reindexing.Time.Span

/-!
# Runners

A runner performs a run and reports an outcome. One runner reports an empty
success at once, one never reports, and one reports the outcomes of a script in
order and then its fallback, each after a fixed delay. A scripted runner
remembers the requests it got; an outcome is taken from the script when the run
ends.
-/
namespace Reindexing

/-- What a runner is told about a run. -/
structure RunRequest where
  task : TaskId
  scope : Scope
  /-- Zero for a first run, otherwise the attempts of the queue entry. -/
  attempt : Nat
  retryOf : Option EntryId
  trace : Option TraceLink
  deriving DecidableEq, Repr

structure Script where
  outcomes : List Outcome
  fallback : Outcome
  delay : Span
  /-- The requests so far, oldest first. -/
  calls : List RunRequest
  deriving DecidableEq, Repr

namespace Script

/-- A script without a delay that falls back to an empty success. -/
def ofOutcomes (outcomes : List Outcome) : Script := ⟨outcomes, .success .none, .zero, []⟩

def push (s : Script) (outcome : Outcome) : Script := { s with outcomes := s.outcomes ++ [outcome] }

/-- Takes the next outcome. -/
def next (s : Script) : Script × Outcome :=
  match s.outcomes with
  | outcome :: rest => ({ s with outcomes := rest }, outcome)
  | [] => (s, s.fallback)

end Script

inductive Runner where
  /-- Never reports. -/
  | parked
  /-- Reports an empty success at once. -/
  | noop
  | scripted (script : Script)
  deriving DecidableEq, Repr

namespace Runner

def noopName : String := "noop"

def scriptedName : String := "scripted"

def name : Runner → String
  | .parked => "parked"
  | .noop => noopName
  | .scripted _ => scriptedName

def delay : Runner → Span
  | .scripted s => s.delay
  | _ => .zero

/-- A run begins. -/
def start (r : Runner) (request : RunRequest) : Runner :=
  match r with
  | .scripted s => .scripted { s with calls := s.calls ++ [request] }
  | r => r

/-- A run ends; nothing is reported by a parked runner. -/
def finish : Runner → Runner × Option Outcome
  | .parked => (.parked, none)
  | .noop => (.noop, some (.success .none))
  | .scripted s =>
    let (s, outcome) := s.next
    (.scripted s, some outcome)

def calls : Runner → List RunRequest
  | .scripted s => s.calls
  | _ => []

end Runner

end Reindexing
