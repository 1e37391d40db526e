import Reindexing.Scope
import Reindexing.Task.Status
import Reindexing.Uuid

/-!
# Refusals

Why an operation on tasks or on the retry queue is refused. Refusals are causes;
their wording, codes and details belong to the errors that report them.
-/
namespace Reindexing

/-- Why a queue entry may not be retried now. -/
inductive Ineligibility where
  | inFlight
  /-- Seconds until the entry may be retried. -/
  | coolingDown (wait : Nat)
  | exhausted
  deriving DecidableEq, Repr

inductive Refusal where
  | taskNotFound (task : TaskId)
  /-- A task with an overlapping scope is active. -/
  | scopeBusy (scope : Scope) (active : TaskId)
  | invalidTransition (task : TaskId) (status next : TaskStatus)
  /-- The task has finished before. -/
  | outcomeRecorded (task : TaskId) (status : TaskStatus)
  | entryNotFound (entry : EntryId)
  | notEligible (entry : EntryId) (reason : Ineligibility)
  deriving DecidableEq, Repr

end Reindexing
