import Reindexing.Queue.Entry

/-!
# Queue mutations

Every change of the queue is described by its kind and by the entry as it is
afterwards. A claim also remembers the entry as it was before, so that it can be
rolled back.
-/
namespace Reindexing

inductive MutationKind where
  /-- The first failure of a scope. -/
  | created
  /-- A repeated failure, or a failed retry. -/
  | updated
  | claimed
  /-- A claim was rolled back. -/
  | released
  | modeChanged
  /-- The retry succeeded and the entry is gone. -/
  | resolved
  /-- An operator dismissed the entry. -/
  | removed
  deriving DecidableEq, Repr, Inhabited

def MutationKind.name : MutationKind → String
  | .created => "created"
  | .updated => "updated"
  | .claimed => "claimed"
  | .released => "released"
  | .modeChanged => "mode_changed"
  | .resolved => "resolved"
  | .removed => "removed"

def MutationKind.every : List MutationKind :=
  [.created, .updated, .claimed, .released, .modeChanged, .resolved, .removed]

structure Mutation where
  kind : MutationKind
  entry : QueueEntry
  actor : Option String
  timestamp : Instant
  deriving DecidableEq, Repr

/-- A successful claim. -/
structure Claim where
  entry : QueueEntry
  mutations : List Mutation
  previous : QueueEntry
  deriving DecidableEq, Repr

end Reindexing
