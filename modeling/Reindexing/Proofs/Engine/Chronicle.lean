import Reindexing.Proofs.Engine.Runs

/-!
# Chronicles of a run

What a run did to the entries of the queue over time. A note is taken of every
failure that a report records in an entry, and of every retry that succeeds, with
the reading of the clock with which its call began; notes are read off the calls
and their results. A chronicle is a run with its notes, in the order of the calls
and, within a pass of the watchdog or of the scheduler, in the order of the steps.
-/
namespace Reindexing

/-- A retry that succeeded. -/
structure Attempt where
  time : Instant
  force : Bool
  /-- The entry as it was right before the retry. -/
  before : QueueEntry
  /-- The entry that the retry returned. -/
  after : QueueEntry
  deriving DecidableEq, Repr

inductive Note where
  | failure (entry : EntryId) (time : Instant)
  | retried (a : Attempt)
  deriving DecidableEq, Repr

/-- The entry that a note is about. -/
def Note.entry : Note → EntryId
  | .failure entry _ => entry
  | .retried a => a.before.id

def Note.attempt? : Note → Option Attempt
  | .failure .. => none
  | .retried a => some a

theorem mem_attempts {notes : List Note} {a : Attempt} (attempted : a ∈ notes.filterMap Note.attempt?) :
    .retried a ∈ notes := by
  obtain ⟨n, noted, same⟩ := List.mem_filterMap.mp attempted
  cases n with
  | failure => cases same
  | retried other =>
    obtain rfl := Option.some.inj same
    exact noted

def Note.retriedEntry? (n : Note) : Option EntryId := n.attempt?.map (·.before.id)

namespace Engine

/-! ### Notes of the calls -/

def retryNotes (e : Engine) (id : EntryId) (c : RetryCommand) : List Note :=
  match e.queue.find? id, (e.retry id c).2 with
  | some before, .ok after => [.retried ⟨e.now.1, c.force, before, after⟩]
  | _, _ => []

/-- A failed task is recorded in the entry that stands under the label of its scope afterwards. -/
def reportNotes (e : Engine) (id : TaskId) (reported : Outcome) : List Note :=
  match e.recordOutcome id reported with
  | (after, .ok done) =>
    if done.status = .failed then
      ((after.queue.findByScope done.scope).map fun entry => Note.failure entry.id e.now.1).toList
    else []
  | (_, .error _) => []

def timeOutNotes (e : Engine) : List TaskId → List Note
  | [] => []
  | id :: rest => e.reportNotes id .timeout ++ (e.timeOut id).1.timeOutNotes rest

def watchdogNotes (e : Engine) : List Note :=
  e.now.2.timeOutNotes (e.registry.timedOut e.timeout e.now.1)

def retryAllNotes (e : Engine) : List EntryId → List Note
  | [] => []
  | id :: rest => e.retryNotes id ⟨schedulerActor, none, false⟩ ++ (e.retryOne id).1.retryAllNotes rest

/-- The engine in a pass of the scheduler after ended cooldowns were dropped. -/
def cleared (e : Engine) : Engine := { e.now.2 with queue := (e.queue.clearElapsed e.now.1).1 }

/-- The engine in a pass of the scheduler after tasks that ran too long were failed. -/
def swept (e : Engine) : Engine := e.cleared.runWatchdog.1

/-- The entries that a pass of the scheduler retries. -/
def due (e : Engine) : List EntryId := e.swept.queue.eligibleAuto e.swept.now.1

theorem tick_retried (e : Engine) : e.tick.2.retried = (e.swept.now.2.retryAll e.due).2.1 := rfl

def notes (e : Engine) : Call → List Note
  | .submit _ | .remove .. | .setRetryMode .. => []
  | .retry id c => e.retryNotes id c
  | .recordOutcome id reported => e.reportNotes id reported
  | .runWatchdog => e.watchdogNotes
  | .tick => e.cleared.watchdogNotes ++ e.swept.now.2.retryAllNotes e.due

/-! ### Notes of a pass of the scheduler -/

theorem retriedEntries_reportNotes (e : Engine) (id : TaskId) (reported : Outcome) :
    (e.reportNotes id reported).filterMap Note.retriedEntry? = [] := by
  unfold reportNotes
  split
  · next after done _ =>
    split
    · cases after.queue.findByScope done.scope <;> rfl
    · rfl
  · rfl

theorem retriedEntries_timeOutNotes (e : Engine) (ids : List TaskId) :
    (e.timeOutNotes ids).filterMap Note.retriedEntry? = [] := by
  induction ids generalizing e with
  | nil => rfl
  | cons id rest ih =>
    rw [timeOutNotes, List.filterMap_append, e.retriedEntries_reportNotes, ih, List.append_nil]

/-- A retry that succeeds finds its entry. -/
theorem find?_of_retry_ok {e after : Engine} {id : EntryId} {c : RetryCommand} {entry : QueueEntry}
    (success : e.retry id c = (after, .ok entry)) : ∃ before, e.queue.find? id = some before := by
  cases claimed : e.queue.claim id c.actor c.note c.force e.now.1 with
  | mk queue answer =>
    cases answer with
    | error r =>
      simp only [retry, Engine.claim, queue_now, claimed] at success
      cases success
    | ok taken =>
      obtain ⟨before, found, _⟩ := Queue.claim_ok claimed
      exact ⟨before, found⟩

theorem retriedEntries_retryNotes (e : Engine) (id : EntryId) :
    (e.retryNotes id ⟨schedulerActor, none, false⟩).filterMap Note.retriedEntry? =
      if (e.retryOne id).2 then [id] else [] := by
  cases result : e.retry id ⟨schedulerActor, none, false⟩ with
  | mk after answer =>
    cases answer with
    | error r =>
      simp only [retryNotes, retryOne, result]
      cases e.queue.find? id <;> rfl
    | ok entry =>
      obtain ⟨before, found⟩ := find?_of_retry_ok result
      have same : before.id = id := (Queue.mem_of_find? found).2
      simp only [retryNotes, retryOne, result, found, if_true]
      rw [← same]
      rfl

theorem retriedEntries_retryAllNotes (e : Engine) (ids : List EntryId) :
    (e.retryAllNotes ids).filterMap Note.retriedEntry? = (e.retryAll ids).2.1 := by
  induction ids generalizing e with
  | nil => rfl
  | cons id rest ih =>
    rw [retryAllNotes, List.filterMap_append, retriedEntries_retryNotes, ih, retryAll]
    rcases e.retryOne id with ⟨next, _ | _⟩ <;> rfl

/-- The report of a pass of the scheduler names the entries of the retries that are noted. -/
theorem retriedEntries_tick (e : Engine) :
    (e.notes .tick).filterMap Note.retriedEntry? = e.tick.2.retried := by
  rw [notes, List.filterMap_append, watchdogNotes, retriedEntries_timeOutNotes,
    retriedEntries_retryAllNotes, List.nil_append, tick_retried]

/-! ### Runs with their notes -/

/-- The engines that calls lead to from `start`, with the notes of the calls. What goes on beside the
calls may read the clock, but changes neither the clock nor the stores. -/
inductive Chronicle (start : Engine) : List Note → Engine → Prop where
  | start : Chronicle start [] start
  | aside {notes : List Note} {e after : Engine} : Chronicle start notes e → Aside e after →
      after.supply.clock = e.supply.clock → e.supply.readings ≤ after.supply.readings →
      Chronicle start notes after
  | call {notes : List Note} {e : Engine} (c : Call) : Chronicle start notes e →
      (e.perform c).supply.Distinct → Chronicle start (notes ++ e.notes c) (e.perform c)

theorem Chronicle.reachable {start e : Engine} {notes : List Note} (h : Chronicle start notes e)
    (reachable : start.Reachable) : e.Reachable := by
  induction h with
  | start => exact reachable
  | aside _ beside _ _ ih => exact ih.aside beside
  | call c _ distinct ih => exact ih.call c distinct

end Engine

end Reindexing
