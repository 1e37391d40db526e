import Reindexing.Proofs.Engine.Sections
import Reindexing.Proofs.Queue.Operations
import Reindexing.Proofs.Registry.Transitions

/-!
# Moves

What a section can do, said once. A `View` of the stores keeps what the
invariants read of them: tasks with their events, the standings of the entries
with their labels, and the identifiers handed out. `Move` lists every change of
the view together with what it leaves its call to do; `run_moves` shows that each
section makes one of these moves, so that an invariant over all sections is a
case analysis on moves and opens neither the registry nor the queue.
-/
namespace Reindexing

structure View where
  tasks : List Task
  events : List HistoryEvent
  standings : List Standing
  /-- The entry of each scope label. -/
  labels : List (String × EntryId)
  taskIds : List TaskId
  entryIds : List EntryId

def Stores.view (w : Stores) : View :=
  ⟨w.registry.tasks, w.registry.history.events, w.queue.standings, w.queue.byScope, w.taskIds, w.entryIds⟩

namespace View

/-- A new task with the event of its creation. -/
def adding (v : View) (t : Task) (event : HistoryEvent) : View :=
  { v with tasks := v.tasks ++ [t], events := v.events ++ [event], taskIds := v.taskIds ++ [t.id] }

/-- A task in the place of the one with its identifier, with the event of the change. -/
def changing (v : View) (t : Task) (event : HistoryEvent) : View :=
  { v with tasks := Keyed.replaceBy (·.id) t v.tasks, events := v.events ++ [event] }

/-- A standing in the place of the one with its identifier. -/
def settling (v : View) (s : Standing) : View :=
  { v with standings := Keyed.replaceBy (·.id) s v.standings }

/-- A new entry and its label. -/
def opening (v : View) (s : Standing) : View :=
  { v with
    standings := v.standings ++ [s]
    labels := v.labels.filter (·.1 ≠ s.scope.label) ++ [(s.scope.label, s.id)]
    entryIds := v.entryIds ++ [s.id] }

/-- An entry and its label are dropped. -/
def dropping (v : View) (s : Standing) : View :=
  { v with
    standings := v.standings.filter (·.id ≠ s.id)
    labels := v.labels.filter fun (label, id) => !(label = s.scope.label && id = s.id) }

/-- The event that records a status of a task next. -/
def Records (v : View) (event : HistoryEvent) (id : TaskId) (status : TaskStatus) : Prop :=
  event.sequence = v.events.length ∧ event.task = id ∧ event.status = status

/-- No two tasks and no two entries have one identifier. -/
structure Unique (v : View) : Prop where
  tasks : (v.tasks.map (·.id)).Nodup
  entries : (v.standings.map (·.id)).Nodup

end View

namespace Section

/-- Whether a section can be the first of a call, or of one round of its loop. -/
def isOpening : Section → Bool
  | .create .. | .claim .. | .report .. | .remove .. | .setMode .. | .clearCooldowns | .sweep .. | .scan => true
  | _ => false

end Section

open View Section in
/-- Every change of a view by one section, with the sections that it leaves to do. -/
inductive Move (v : View) : Section → View → List Section → Prop where
  /-- Nothing changes: the section was refused, or changed no standing. -/
  | idle {s : Section} : s.isOpening = true → Move v s v []
  | sweep {timeout : Span} {next : List Section} :
      (∀ r ∈ next, r.isOpening = true) → Move v (.sweep timeout) v next
  | scan {next : List Section} : (∀ r ∈ next, r.isOpening = true) → Move v .scan v next
  | create {c : SubmitCommand} {t : Task} {event : HistoryEvent} :
      t.status.isWaiting = true → t.retryOf = none → v.Records event t.id t.status →
      Move v (.create c) (v.adding t event) [.start t.id]
  | start {t : Task} {now : Instant} {event : HistoryEvent} :
      t ∈ v.tasks → t.status.isWaiting = true → v.Records event t.id .running →
      Move v (.start t.id) (v.changing (t.started now) event) []
  | startRefused {id : TaskId} :
      (∀ t ∈ v.tasks, t.id = id → t.status.isWaiting = false) → Move v (.start id) v []
  | claim {c : RetryCommand} {s : Standing} {taken : Claim} :
      s ∈ v.standings → s.status ≠ .running → taken.previous.standing = s →
      taken.entry.standing = { s with status := .running } →
      Move v (.claim s.id c) (v.settling { s with status := .running }) [.resubmit s.id c taken]
  | resubmit {id : EntryId} {c : RetryCommand} {taken : Claim} {t : Task} {event : HistoryEvent} :
      t.status.isWaiting = true → t.retryOf = some id → t.scope = taken.entry.scope →
      v.Records event t.id t.status →
      Move v (.resubmit id c taken) (v.adding t event) [.attach id t.id]
  | resubmitRefused {id : EntryId} {c : RetryCommand} {taken : Claim} :
      Move v (.resubmit id c taken) v [.release taken]
  | release {s : Standing} {taken : Claim} :
      s ∈ v.standings → taken.previous.id = s.id →
      Move v (.release taken) (v.settling taken.previous.standing) []
  | releaseGone {taken : Claim} :
      (∀ s ∈ v.standings, s.id ≠ taken.previous.id) → Move v (.release taken) v []
  | attach {s : Standing} {task : TaskId} :
      s ∈ v.standings →
      Move v (.attach s.id task) (v.settling { s with currentTask := some task }) [.start task]
  | attachGone {id : EntryId} {task : TaskId} :
      (∀ s ∈ v.standings, s.id ≠ id) → Move v (.attach id task) v [.start task]
  | report {t : Task} {o : Outcome} {now : Instant} {event : HistoryEvent} :
      t ∈ v.tasks → t.status = .running → v.Records event t.id o.status →
      Move v (.report t.id o) (v.changing (t.ended o now) event) (settlement (t.ended o now))
  | retryFailed {s : Standing} {failed : Task} :
      s ∈ v.standings →
      Move v (.recordRetryFailure s.id failed)
        (v.settling { s with status := .failed, currentTask := none, lastTask := failed.id }) []
  | retryFailedGone {id : EntryId} {failed : Task} :
      (∀ s ∈ v.standings, s.id ≠ id) → Move v (.recordRetryFailure id failed) v [.enqueue failed]
  | enqueueNew {failed : Task} {id : EntryId} :
      failed.status = .failed → (∀ p ∈ v.labels, p.1 ≠ failed.scope.label) →
      Move v (.enqueue failed) (v.opening ⟨id, failed.scope, .queued, none, failed.id, failed.id⟩) []
  | enqueueAgain {failed : Task} {s : Standing} :
      failed.status = .failed → s ∈ v.standings → (failed.scope.label, s.id) ∈ v.labels →
      Move v (.enqueue failed) (v.settling { s with lastTask := failed.id }) []
  /-- The task did not fail, or its label leads to no entry. -/
  | enqueueRefused {failed : Task} :
      (failed.status = .failed →
        ∃ p ∈ v.labels, p.1 = failed.scope.label ∧ ∀ s ∈ v.standings, s.id ≠ p.2) →
      Move v (.enqueue failed) v []
  | resolve {s : Standing} : s ∈ v.standings → Move v (.resolve s.id) (v.dropping s) []
  | resolveGone {id : EntryId} : (∀ s ∈ v.standings, s.id ≠ id) → Move v (.resolve id) v []
  | remove {s : Standing} {actor : Option String} :
      s ∈ v.standings → Move v (.remove s.id actor) (v.dropping s) []

namespace Stores

variable {w : Stores}

/-! ### Changes of the stores as changes of the view -/

theorem view_changing {registry : Registry} {t : Task} {event : HistoryEvent} {tr : Transition}
    (eq : (registry, tr) = w.registry.recorded t event) :
    { w with registry }.view = w.view.changing t event := by
  cases eq
  rfl

theorem view_withQueue {queue : Queue} (standings : queue.standings = w.queue.standings)
    (labels : queue.byScope = w.queue.byScope) : { w with queue }.view = w.view := by
  simp [view, standings, labels]

theorem view_replace (w : Stores) (e : QueueEntry) :
    { w with queue := w.queue.replace e }.view = w.view.settling e.standing := by
  simp [view, View.settling, Queue.standings_replace]

/-- A cooldown that could not be formed shows in no view. -/
theorem view_replace_noted (w : Stores) (e : QueueEntry) (overflow : Bool) :
    { w with queue := (w.queue.noteOverflow overflow).replace e }.view = w.view.settling e.standing :=
  w.view_replace e

theorem view_drop (w : Stores) (e : QueueEntry) :
    { w with queue := w.queue.drop e }.view = w.view.dropping e.standing := by
  simp only [view, View.dropping, Queue.standings_drop]
  rfl

theorem view_add (w : Stores) (e : QueueEntry) :
    { w with queue := w.queue.add e, entryIds := w.entryIds ++ [e.id] }.view =
      w.view.opening e.standing := by
  simp only [view, View.opening, Queue.standings_add]
  rfl

end Stores

namespace Section

variable {w : Stores} {x : Inputs}

/-- A record of the registry names the event that comes next. -/
theorem records_nextEvent (w : Stores) (id : TaskId) (status : TaskStatus) (time : Instant)
    (note : Option String) (trace : Option TraceLink) :
    w.view.Records (w.registry.history.nextEvent id status time note trace) id status :=
  ⟨rfl, rfl, rfl⟩

/-! ### Sections of the registry -/

theorem view_submit {id : TaskId} {s : Submission} {now : Instant} {registry : Registry}
    {created : Transition} (result : w.registry.submit id s now = .ok (registry, created)) :
    { w with registry, taskIds := w.taskIds ++ [id] }.view =
        w.view.adding created.task created.event ∧
      created.task.status.isWaiting = true ∧ created.task.retryOf = s.retryOf ∧
      created.task.scope = s.scope ∧
      w.view.Records created.event created.task.id created.task.status := by
  obtain ⟨_, rfl, rfl⟩ := Registry.submit_ok_iff.mp result
  refine ⟨?_, Registry.newTask_waiting .., Registry.newTask_retryOf .., Registry.newTask_scope ..,
    records_nextEvent ..⟩
  simp [Stores.view, View.adding]

theorem create_moves (c : SubmitCommand) :
    Move w.view (.create c) ((create c).run x w).1.view ((create c).run x w).2 := by
  simp only [run]
  cases result : w.registry.submit x.taskId ⟨c.scope, c.actor, c.note, x.trace, none⟩ x.now with
  | error r => exact .idle rfl
  | ok value =>
    obtain ⟨registry, created⟩ := value
    obtain ⟨view, waiting, retryOf, _, records⟩ := view_submit result
    rw [view]
    exact .create waiting retryOf records

theorem start_moves (unique : w.view.Unique) (id : TaskId) :
    Move w.view (.start id) ((start id).run x w).1.view ((start id).run x w).2 := by
  simp only [run]
  cases result : w.registry.markRunning id x.trace x.now with
  | error r =>
    refine .startRefused fun t member same => ?_
    by_contra waiting
    subst same
    have found := Registry.find?_of_mem unique.tasks member
    have accepted : w.registry.markRunning t.id x.trace x.now = .ok _ :=
      Registry.markRunning_of_waiting found (by simpa using waiting) x.trace
    rw [accepted] at result
    cases result
  | ok value =>
    obtain ⟨registry, running⟩ := value
    obtain ⟨t, found, waiting, eq⟩ := Registry.markRunning_ok result
    obtain ⟨member, rfl⟩ := Registry.mem_of_find? found
    rw [Stores.view_changing eq]
    exact .start member waiting (records_nextEvent ..)

theorem resubmit_moves (id : EntryId) (c : RetryCommand) (taken : Claim) :
    Move w.view (.resubmit id c taken) ((resubmit id c taken).run x w).1.view
      ((resubmit id c taken).run x w).2 := by
  simp only [run]
  cases result : w.registry.submit x.taskId
      ⟨taken.entry.scope, c.actor, c.note, x.trace, some id⟩ x.now with
  | error r => exact .resubmitRefused
  | ok value =>
    obtain ⟨registry, created⟩ := value
    obtain ⟨view, waiting, retryOf, scope, records⟩ := view_submit result
    rw [view]
    exact .resubmit waiting retryOf scope records

theorem report_moves (id : TaskId) (o : Outcome) :
    Move w.view (.report id o) ((report id o).run x w).1.view ((report id o).run x w).2 := by
  simp only [run]
  cases result : w.registry.recordOutcome id o none x.trace x.now with
  | error r => exact .idle rfl
  | ok value =>
    obtain ⟨registry, finished⟩ := value
    obtain ⟨t, found, running, eq⟩ := Registry.recordOutcome_ok result
    obtain ⟨member, rfl⟩ := Registry.mem_of_find? found
    have task : finished.task = t.ended o x.now := congrArg (fun p => p.2.task) eq
    simp only [task, Stores.view_changing eq]
    exact .report member running (records_nextEvent ..)

/-! ### Sections of the queue -/

theorem claim_moves (unique : w.view.Unique) (id : EntryId) (c : RetryCommand) :
    Move w.view (.claim id c) ((claim id c).run x w).1.view ((claim id c).run x w).2 := by
  simp only [run]
  cases result : w.queue.claim id c.actor c.note c.force x.now with
  | mk queue answer =>
    cases answer with
    | error r =>
      have same : { w with queue }.view = w.view := by
        rcases Queue.claim_error result with rfl | ⟨e, found, _, rfl⟩
        · rfl
        · exact Stores.view_withQueue (Queue.standings_replace_same unique.entries
            (Queue.mem_of_find? found).1 (e.standing_clearElapsed x.now)) rfl
      rw [same]
      exact .idle rfl
    | ok taken =>
      obtain ⟨e, found, idle, rfl, previous, entry⟩ := Queue.claim_ok result
      obtain ⟨member, rfl⟩ := Queue.standing_mem_of_find? found
      rw [Stores.view_replace, entry]
      exact .claim member idle (by rw [previous, e.standing_clearElapsed]) entry

theorem release_moves (taken : Claim) :
    Move w.view (.release taken) ((release taken).run x w).1.view ((release taken).run x w).2 := by
  simp only [run, Queue.release]
  cases found : w.queue.find? taken.previous.id with
  | none => exact .releaseGone (Queue.find?_eq_none.mp found)
  | some e =>
    obtain ⟨member, same⟩ := Queue.standing_mem_of_find? found
    rw [Stores.view_replace, QueueEntry.standing_touch]
    exact .release member same.symm

theorem attach_moves (id : EntryId) (task : TaskId) :
    Move w.view (.attach id task) ((attach id task).run x w).1.view ((attach id task).run x w).2 := by
  simp only [run, Queue.attach_eq]
  cases found : w.queue.find? id with
  | none => exact .attachGone (Queue.find?_eq_none.mp found)
  | some e =>
    obtain ⟨member, rfl⟩ := Queue.standing_mem_of_find? found
    simp only [Stores.view_replace]
    exact .attach member

theorem recordRetryFailure_moves (id : EntryId) (failed : Task) :
    Move w.view (.recordRetryFailure id failed) ((recordRetryFailure id failed).run x w).1.view
      ((recordRetryFailure id failed).run x w).2 := by
  simp only [run, Queue.recordRetryFailure_eq]
  cases found : w.queue.find? id with
  | none => exact .retryFailedGone (Queue.find?_eq_none.mp found)
  | some e =>
    obtain ⟨member, rfl⟩ := Queue.standing_mem_of_find? found
    simp only [Stores.view_replace_noted, Queue.standing_retryFailed]
    exact .retryFailed member

theorem enqueue_moves (failed : Task) :
    Move w.view (.enqueue failed) ((enqueue failed).run x w).1.view
      ((enqueue failed).run x w).2 := by
  by_cases status : failed.status = .failed
  · cases label : w.queue.idOfLabel? failed.scope.label with
    | none =>
      simp only [run, Queue.enqueue_of_new_label status label, if_true]
      have view (overflow : Bool) : { w with
          queue := (w.queue.noteOverflow overflow).add (w.queue.newEntry x.entryId failed .auto x.now x.draw)
          entryIds := w.entryIds ++ [x.entryId] }.view =
            w.view.opening ⟨x.entryId, failed.scope, .queued, none, failed.id, failed.id⟩ :=
        w.view_add _
      rw [view]
      exact .enqueueNew status (Queue.idOfLabel?_eq_none.mp label)
    | some id =>
      have known := Queue.mem_of_idOfLabel? label
      simp only [run, Queue.enqueue_of_label status label]
      cases found : w.queue.find? id with
      | none => exact .enqueueRefused fun _ => ⟨_, known, rfl, Queue.find?_eq_none.mp found⟩
      | some e =>
        obtain ⟨member, rfl⟩ := Queue.standing_mem_of_find? found
        simp only [reduceCtorEq, if_false, Stores.view_replace_noted, Queue.standing_repeatedFailure]
        exact .enqueueAgain status member known
  · simp only [run, Queue.enqueue_of_not_failed status]
    exact .enqueueRefused fun failed => absurd failed status

theorem resolve_moves (id : EntryId) :
    Move w.view (.resolve id) ((resolve id).run x w).1.view ((resolve id).run x w).2 := by
  simp only [run, Queue.resolve]
  cases found : w.queue.find? id with
  | none => exact .resolveGone (Queue.find?_eq_none.mp found)
  | some e =>
    obtain ⟨member, rfl⟩ := Queue.standing_mem_of_find? found
    rw [Stores.view_drop]
    exact .resolve member

theorem remove_moves (id : EntryId) (actor : Option String) :
    Move w.view (.remove id actor) ((remove id actor).run x w).1.view
      ((remove id actor).run x w).2 := by
  simp only [run, Queue.remove_eq]
  cases found : w.queue.find? id with
  | none => exact .idle rfl
  | some e =>
    obtain ⟨member, rfl⟩ := Queue.standing_mem_of_find? found
    simp only [Stores.view_drop]
    exact .remove member

theorem setMode_moves (unique : w.view.Unique) (id : EntryId) (mode : RetryMode) (actor : String) :
    Move w.view (.setMode id mode actor) ((setMode id mode actor).run x w).1.view
      ((setMode id mode actor).run x w).2 := by
  simp only [run, Queue.setMode_eq]
  cases found : w.queue.find? id with
  | none => exact .idle rfl
  | some e =>
    have same (overflow : Bool) := Queue.standings_replace_same (q := w.queue.noteOverflow overflow)
      unique.entries (Queue.mem_of_find? found).1 (w.queue.standing_withMode e mode x.now x.draw)
    simp only [Stores.view_withQueue (same _) rfl]
    exact .idle rfl

/-- Every section makes one of the moves. -/
theorem run_moves (unique : w.view.Unique) (s : Section) (x : Inputs) :
    Move w.view s (s.run x w).1.view (s.run x w).2 := by
  cases s with
  | create c => exact create_moves c
  | start id => exact start_moves unique id
  | claim id c => exact claim_moves unique id c
  | resubmit id c taken => exact resubmit_moves id c taken
  | release taken => exact release_moves taken
  | attach id task => exact attach_moves id task
  | report id o => exact report_moves id o
  | recordRetryFailure id failed => exact recordRetryFailure_moves id failed
  | enqueue failed => exact enqueue_moves failed
  | resolve id => exact resolve_moves id
  | remove id actor => exact remove_moves id actor
  | setMode id mode actor => exact setMode_moves unique id mode actor
  | clearCooldowns =>
    have same := Stores.view_withQueue (w.queue.standings_clearElapsed x.now) rfl
    simp only [run, same]
    exact .idle rfl
  | sweep timeout => exact .sweep (by simp [run, isOpening])
  | scan => exact .scan (by simp [run, isOpening])

end Section

end Reindexing
