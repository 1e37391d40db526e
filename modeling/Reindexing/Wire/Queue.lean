import Reindexing.Wire.Task

/-!
# Wire forms of the queue

Entries, their views and mutations, and the records of the audit trail. A view
is written as its entry followed by the derived fields; reading it collects the
entry's fields while the derived ones are decoded.
-/
namespace Reindexing.Wire

open Json

def entry : Codec QueueEntry :=
  .ofLayout
    (.field (.required "queue_id" entryId) <|
      .field (.required "original_task_id" taskId) <|
      .field (.optional "current_task_id" taskId) <|
      .field (.required "last_task_id" taskId) <|
      .field (.required "scope" scope) <|
      .field (.required "status" queueStatus) <|
      .field (.required "attempts" count) <|
      .field (.required "max_attempts" count) <|
      .field (.required "retry_mode" retryMode) <|
      .field (.optional "cooldown_until" instant) <|
      .field (.optional "last_attempt_at" instant) <|
      .field (.optional "last_error" text) <|
      .field (.optional "note" text) <|
      .field (.required "created_at" instant) <|
      .field (.optional "updated_at" instant) .done)
    (fun e => (e.id, e.originalTask, e.currentTask, e.lastTask, e.scope, e.status, e.attempts,
      e.maxAttempts, e.mode, e.cooldownUntil, e.lastAttemptAt, e.lastError, e.note, e.createdAt,
      e.updatedAt, ()))
    (fun (id, originalTask, currentTask, lastTask, scope, status, attempts, maxAttempts, mode,
        cooldownUntil, lastAttemptAt, lastError, note, createdAt, updatedAt, ()) =>
      { id, originalTask, currentTask, lastTask, scope, status, attempts, maxAttempts, mode,
        cooldownUntil, lastAttemptAt, lastError, note, createdAt, updatedAt })

/-- The derived fields of a view. -/
def derivedLayout : Layout (RetryState × Bool × Option Nat × Unit)
    (Option RetryState × Option Bool × Option (Option Nat) × Unit) :=
  .field (.required "retry_state" retryState) <|
    .field (.required "eligible" bool) <|
    .field (.optional "attempts_remaining" count) .done

/-- Reads the derived fields among `entries` and collects the others. -/
def readView (origin : Origin) (slots : Option RetryState × Option Bool × Option (Option Nat) × Unit) :
    List (Document × Document) →
    Except DecodeError ((Option RetryState × Option Bool × Option (Option Nat) × Unit) × List (String × Json))
  | [] => .ok (slots, [])
  | (key, value) :: rest => do
    let name ← key.asText
    match derivedLayout.feed origin name value slots with
    | some result => readView origin (← result) rest
    | none =>
      let j ← value.whole origin
      let (slots, fields) ← readView origin slots rest
      pure (slots, (name, j) :: fields)

/-- The fields of an entry followed by the derived ones. -/
def viewToJson (v : EntryView) : Json :=
  let derived := derivedLayout.write (v.state, v.eligible, v.attemptsRemaining, ())
  match entry.write v.entry with
  | .record fields => .record (fields ++ derived)
  | j => j

def view : Codec EntryView :=
  ⟨viewToJson, fun
    | origin, .record entries closing => do
      let (slots, fields) ← readView (← origin.inside) derivedLayout.empty entries
      closing.check
      let (state, eligible, attemptsRemaining, ()) ← derivedLayout.finish slots
      let entry ← entry.read (insideOf origin) (Document.ofJson (.record fields))
      pure { entry, state, eligible, attemptsRemaining }
    | _, d => .error d.mismatch⟩

def mutation : Codec Mutation :=
  .ofLayout
    (.field (.required "kind" mutationKind) <|
      .field (.required "entry" entry) <|
      .field (.optional "actor" text) <|
      .field (.required "timestamp" instant) .done)
    (fun m => (m.kind, m.entry, m.actor, m.timestamp, ()))
    (fun (kind, entry, actor, timestamp, ()) => { kind, entry, actor, timestamp })

end Reindexing.Wire
