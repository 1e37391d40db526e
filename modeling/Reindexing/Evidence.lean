import Reindexing.Time.Rfc3339

/-!
# Evidence

What a run changed: how many entries it created, updated and removed, and some
samples of them. The tracker keeps at most `cap` samples, the first ones, and
leaves the counts as they were reported.
-/
namespace Reindexing

inductive ChangeKind where
  | created
  | updated
  | removed
  deriving DecidableEq, Repr, Inhabited

def ChangeKind.name : ChangeKind → String
  | .created => "created"
  | .updated => "updated"
  | .removed => "removed"

def ChangeKind.every : List ChangeKind := [.created, .updated, .removed]

/-- One example of a changed entry. -/
structure Sample where
  urn : Option String
  chunk : Option String
  kind : ChangeKind
  source : String
  heading : Option String
  quote : Option String
  updatedAt : Option Instant
  deriving DecidableEq, Repr

/-- The resource name if there is one, otherwise the chunk. -/
def Sample.identifier (s : Sample) : Option String := s.urn <|> s.chunk

structure Evidence where
  created : UInt64
  updated : UInt64
  removed : UInt64
  samples : List Sample
  deriving DecidableEq, Repr, Inhabited

namespace Evidence

def ofCounts (created updated removed : UInt64) : Evidence := ⟨created, updated, removed, []⟩

/-- No change at all. -/
def none : Evidence := ofCounts 0 0 0

/-- The sum of the counts, which wraps around where it does not fit into a word. -/
def totalChanges (e : Evidence) : UInt64 := e.created + e.updated + e.removed

/-- The evidence with at most `cap` samples. -/
def track (cap : Nat) (e : Evidence) : Evidence := { e with samples := e.samples.take cap }

/-- The number of samples kept unless something else is configured. -/
def defaultCap : Nat := 20

end Evidence

end Reindexing
