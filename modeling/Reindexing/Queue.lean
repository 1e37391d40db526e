import Reindexing.Cooldown
import Reindexing.Queue.Mutation
import Reindexing.Word

/-!
# Retry queue

There is at most one entry for each scope label; an index by label stands beside
the entries. A failure creates the entry of its label or updates it, a claim
starts a retry, and the retry ends by success, by failure or by a rollback of
the claim. Fresh identifiers and the random parts of cooldowns are handed in.

A cooldown that cannot be formed ends the program in the middle of the operation.
The queue remembers it, and nothing that it holds from then on counts any more.
-/
namespace Reindexing

structure Queue where
  entries : List QueueEntry
  /-- The entry of each scope label. -/
  byScope : List (String × EntryId)
  policy : CooldownPolicy
  maxAttempts : Nat
  /-- Whether the cooldown of an entry could not be formed, which ends the program. -/
  overflowed : Bool

namespace Queue

/-- An empty queue that allows at least one automatic attempt. -/
def empty (policy : CooldownPolicy) (maxAttempts : Nat) : Queue :=
  ⟨[], [], policy, max maxAttempts 1, false⟩

def find? (q : Queue) (id : EntryId) : Option QueueEntry := q.entries.find? (·.id = id)

def get (q : Queue) (id : EntryId) : Except Refusal QueueEntry :=
  match q.find? id with
  | some entry => .ok entry
  | none => .error (.entryNotFound id)

def idOfLabel? (q : Queue) (label : String) : Option EntryId :=
  (q.byScope.find? (·.1 = label)).map (·.2)

/-- The entry that keeps the books on the label of a scope. -/
def findByScope (q : Queue) (scope : Scope) : Option QueueEntry :=
  (q.idOfLabel? scope.label).bind q.find?

/-- Puts an entry in the place of the one with its identifier. -/
def replace (q : Queue) (entry : QueueEntry) : Queue :=
  { q with entries := q.entries.map fun e => if e.id = entry.id then entry else e }

/-- Adds a new entry and its label. -/
def add (q : Queue) (entry : QueueEntry) : Queue :=
  { q with
    entries := q.entries ++ [entry]
    byScope := q.byScope.filter (·.1 ≠ entry.scope.label) ++ [(entry.scope.label, entry.id)] }

/-- Drops an entry, and its label if the label still leads to it. -/
def drop (q : Queue) (entry : QueueEntry) : Queue :=
  { q with
    entries := q.entries.filter (·.id ≠ entry.id)
    byScope := q.byScope.filter fun (label, id) => !(label = entry.scope.label && id = entry.id) }

/-- The cooldown of an entry that failed at `start`: none in manual mode or without attempts left. -/
def cooldownAfter (q : Queue) (e : QueueEntry) (start : Instant) (draw : Nat) : Option Instant :=
  if e.mode = .auto ∧ e.attempts < e.maxAttempts then some (q.policy.keptUntil e.attempts draw start)
  else none

/-- Whether the cooldown that an entry is due for cannot be formed; a running retry is due for none. -/
def overflows (q : Queue) (e : QueueEntry) (draw : Nat) : Bool :=
  e.status ≠ .running && e.mode = .auto && decide (e.attempts < e.maxAttempts) &&
    (q.policy.jitteredCooldown e.attempts draw).isNone

/-- Remembers whether a cooldown could not be formed. -/
def noteOverflow (q : Queue) (overflow : Bool) : Queue := { q with overflowed := overflow || q.overflowed }

/-- The entry that the first failure of a scope creates. -/
def newEntry (q : Queue) (id : EntryId) (failed : Task) (mode : RetryMode) (now : Instant) (draw : Nat) :
    QueueEntry :=
  let entry : QueueEntry :=
    { id, originalTask := failed.id, currentTask := none, lastTask := failed.id, scope := failed.scope,
      status := .queued, attempts := 0, maxAttempts := q.maxAttempts, mode, cooldownUntil := none,
      lastAttemptAt := some now, lastError := failed.errorCode, note := failed.note, createdAt := now,
      updatedAt := none }
  { entry with cooldownUntil := q.cooldownAfter entry now draw }

/-- The entry after another failure of its scope; a running retry keeps its cooldown. -/
def repeatedFailure (q : Queue) (e : QueueEntry) (failed : Task) (now : Instant) (draw : Nat) : QueueEntry :=
  let e := { e with lastError := failed.errorCode, lastAttemptAt := some now, lastTask := failed.id }
  let e := e.touch now
  { e with cooldownUntil := if e.status = .running then e.cooldownUntil else q.cooldownAfter e now draw }

/-- Records a failed task: creates the entry of its scope, or updates it. -/
def enqueue (q : Queue) (failed : Task) (mode : RetryMode) (now : Instant) (fresh : EntryId) (draw : Nat) :
    Except Refusal (Queue × Mutation) :=
  if failed.status ≠ .failed then .error (.invalidTransition failed.id failed.status .failed)
  else
    match q.idOfLabel? failed.scope.label with
    | some id => do
      let entry := q.repeatedFailure (← q.get id) failed now draw
      pure ((q.noteOverflow (q.overflows entry draw)).replace entry, ⟨.updated, entry, none, now⟩)
    | none =>
      let entry := q.newEntry fresh failed mode now draw
      .ok ((q.noteOverflow (q.overflows entry draw)).add entry, ⟨.created, entry, none, now⟩)

/-- Seconds until a cooldown ends, at least one. -/
def waitSeconds (ending now : Instant) : Nat := (max (Instant.wholeSeconds (ending - now)) 1).toNat

/-- Why an entry that is neither running nor eligible may not be claimed. -/
def reasonAgainst (e : QueueEntry) (now : Instant) : Ineligibility :=
  match e.cooldownUntil with
  | some ending => if e.isAutoExhausted then .exhausted else .coolingDown (waitSeconds ending now)
  | none => .exhausted

/-- The entry with its claim taken. -/
def claimed (e : QueueEntry) (note : Option String) (now : Instant) : QueueEntry :=
  let note := ((note.map Text.trim).filter (· ≠ "")) <|> e.note
  ({ e with
    note
    attempts := min (e.attempts + 1) Word.max32
    status := .running
    cooldownUntil := none
    lastAttemptAt := some now }).touch now

/-- Claims an entry for a retry. A forced claim also takes an entry that is cooling down,
and one without attempts left by switching it to manual mode; a running entry is never
claimed. A cooldown that has ended is dropped in any case. -/
def claim (q : Queue) (id : EntryId) (actor : String) (note : Option String) (force : Bool)
    (now : Instant) : Queue × Except Refusal Claim :=
  match q.find? id with
  | none => (q, .error (.entryNotFound id))
  | some found =>
    if found.status = .running then (q, .error (.notEligible id .inFlight))
    else
      let previous := found.clearElapsed now
      if previous.isEligible now || force then
        let (entry, switched) :=
          if !previous.isEligible now && previous.isAutoExhausted then
            let entry := { previous with mode := .manual }.touch now
            (entry, [⟨.modeChanged, entry, some actor, now⟩])
          else (previous, [])
        let entry := claimed entry note now
        (q.replace entry, .ok ⟨entry, switched ++ [⟨.claimed, entry, some actor, now⟩], previous⟩)
      else (q.replace previous, .error (.notEligible id (reasonAgainst previous now)))

/-- Names the task that a claim started. -/
def attach (q : Queue) (id : EntryId) (task : TaskId) : Except Refusal Queue := do
  let entry ← q.get id
  pure (q.replace { entry with currentTask := some task })

/-- Rolls a claim back, if the entry is still there. -/
def release (q : Queue) (claim : Claim) (now : Instant) : Queue × Option Mutation :=
  match q.find? claim.previous.id with
  | none => (q, none)
  | some _ =>
    let entry := claim.previous.touch now
    (q.replace entry, some ⟨.released, entry, none, now⟩)

/-- The entry after its retry failed. -/
def retryFailed (q : Queue) (e : QueueEntry) (failed : Task) (now : Instant) (draw : Nat) : QueueEntry :=
  let e := { e with
    status := .failed
    currentTask := none
    lastTask := failed.id
    lastError := failed.errorCode
    lastAttemptAt := some now }
  let e := e.touch now
  { e with cooldownUntil := q.cooldownAfter e now draw }

/-- Records that the retry of an entry failed. -/
def recordRetryFailure (q : Queue) (id : EntryId) (failed : Task) (now : Instant) (draw : Nat) :
    Except Refusal (Queue × Mutation) := do
  let entry := q.retryFailed (← q.get id) failed now draw
  pure ((q.noteOverflow (q.overflows entry draw)).replace entry, ⟨.updated, entry, none, now⟩)

/-- Drops an entry whose retry succeeded. -/
def resolve (q : Queue) (id : EntryId) (now : Instant) : Queue × Option Mutation :=
  match q.find? id with
  | none => (q, none)
  | some found =>
    let entry := { found with status := .completed, currentTask := none }.touch now
    (q.drop found, some ⟨.resolved, entry, none, now⟩)

/-- Drops an entry that an operator dismisses. -/
def remove (q : Queue) (id : EntryId) (actor : Option String) (now : Instant) :
    Except Refusal (Queue × Mutation) := do
  let entry ← q.get id
  pure (q.drop entry, ⟨.removed, entry, actor, now⟩)

/-- The entry in another mode. Automatic mode limits the attempts to the budget and counts
the cooldown from the last attempt. -/
def withMode (q : Queue) (e : QueueEntry) (mode : RetryMode) (now : Instant) (draw : Nat) : QueueEntry :=
  let e := { e with
    mode
    attempts := if mode = RetryMode.auto then min e.attempts e.maxAttempts else e.attempts }
  let e := e.touch now
  let ending :=
    if e.status = .running then none
    else (q.cooldownAfter e (e.lastAttemptAt.getD now) draw).filter fun ending => decide (now < ending)
  { e with cooldownUntil := ending }

def setMode (q : Queue) (id : EntryId) (mode : RetryMode) (actor : String) (now : Instant) (draw : Nat) :
    Except Refusal (Queue × Mutation) := do
  let entry := q.withMode (← q.get id) mode now draw
  pure ((q.noteOverflow (q.overflows entry draw)).replace entry, ⟨.modeChanged, entry, some actor, now⟩)

/-- Drops the cooldowns that have ended, and counts them. -/
def clearElapsed (q : Queue) (now : Instant) : Queue × Nat :=
  ({ q with entries := q.entries.map (·.clearElapsed now) },
    (q.entries.filter (·.cooldownElapsed now)).length)

/-- Entries by the time they were last touched, oldest first. -/
def oldestFirst (entries : List QueueEntry) : List QueueEntry :=
  entries.mergeSort fun a b => decide (a.lastTouched ≤ b.lastTouched)

/-- Entries by the time they were last touched, newest first. -/
def newestFirst (entries : List QueueEntry) : List QueueEntry :=
  entries.mergeSort fun a b => decide (b.lastTouched ≤ a.lastTouched)

/-- The entries in automatic mode that may be retried now. -/
def eligibleAuto (q : Queue) (now : Instant) : List EntryId :=
  (oldestFirst (q.entries.filter fun e => e.mode = .auto && e.isEligible now)).map (·.id)

def list (q : Queue) (filter : QueueFilter) : List QueueEntry :=
  newestFirst (q.entries.filter filter.matches)

def size (q : Queue) : Nat := q.entries.length

end Queue

end Reindexing
