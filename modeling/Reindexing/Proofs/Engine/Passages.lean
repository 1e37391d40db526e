import Reindexing.Proofs.Engine.Chronicle
import Reindexing.Proofs.Engine.Failures
import Reindexing.Proofs.Queue.Calls
import Reindexing.Proofs.Queue.Claims

/-!
# Passages of the queue

What complete calls do to the queue. `Alters` lists how an entry can change;
since calls do not interleave, a claim and its rollback are one change, and so
are a claim and the naming of its task. A passage is a sequence of changes, each
at a reading of the clock of its own, with the notes that are taken of them. The
last theorem shows that a chronicle is a passage, so that what every change
preserves holds throughout every run.
-/
namespace Reindexing

/-- How an entry changes at a time, and what is noted of that. -/
inductive Alters (q : Queue) (now : Instant) (e : QueueEntry) : List Note → QueueEntry → Prop where
  | failed (failed : Task) (draw : Nat) :
      Alters q now e [.failure e.id now] (q.repeatedFailure e failed now draw)
  | retryFailed (failed : Task) (draw : Nat) :
      Alters q now e [.failure e.id now] (q.retryFailed e failed now draw)
  | modeSet (mode : RetryMode) (draw : Nat) : Alters q now e [] (q.withMode e mode now draw)
  | cooldownEnded : Alters q now e [] (e.clearElapsed now)
  /-- A claim was rolled back. -/
  | rolledBack : Alters q now e [] ((e.clearElapsed now).touch now)
  /-- A claim got its task; the retry is noted if the task was dispatched. -/
  | retried {force : Bool} {taken : QueueEntry} {notes : List Note} (task : TaskId) :
      e.Taken force now taken →
      notes = [] ∨ notes = [.retried ⟨now, force, e, { taken with currentTask := some task }⟩] →
      Alters q now e notes { taken with currentTask := some task }

/-- How the queue changes at a time, and what is noted of that. -/
inductive Change (now : Instant) (b : Books) : List Note → Books → Prop where
  | altered (overflow : Bool) {e next : QueueEntry} {notes : List Note} : e ∈ b.queue.entries →
      Alters b.queue now e notes next →
      Change now b notes { b with queue := (b.queue.noteOverflow overflow).replace next }
  | cleared : Change now b [] { b with queue := (b.queue.clearElapsed now).1 }
  | added (overflow : Bool) (failed : Task) (mode : RetryMode) (draw : Nat) {fresh : EntryId} :
      fresh ∉ b.entryIds → Change now b [.failure fresh now]
        ⟨(b.queue.noteOverflow overflow).add (b.queue.newEntry fresh failed mode now draw), b.entryIds ++ [fresh]⟩
  | dropped (old : QueueEntry) : Change now b [] { b with queue := b.queue.drop old }

/-- The books of an engine with its clock, and how often that was read. -/
structure Moment extends Books where
  clock : Nat → Instant
  readings : Nat

/-- Changes one after the other, each with a reading of the clock of its own. -/
inductive Passage : Moment → List Note → Moment → Prop where
  | wait {m : Moment} {readings : Nat} : m.readings ≤ readings → Passage m [] { m with readings }
  | change {m : Moment} {notes : List Note} {after : Books} :
      Change (m.clock m.readings) m.toBooks notes after →
      Passage m notes { m with toBooks := after, readings := m.readings + 1 }
  | trans {m between after : Moment} {first second : List Note} : Passage m first between →
      Passage between second after → Passage m (first ++ second) after

theorem Passage.refl (m : Moment) : Passage m [] m := .wait (Nat.le_refl m.readings)

/-- After a change the clock may be read again. -/
theorem Passage.change_wait {m : Moment} {notes : List Note} {after : Books} {readings : Nat}
    (change : Change (m.clock m.readings) m.toBooks notes after) (later : m.readings < readings) :
    Passage m notes { m with toBooks := after, readings } := by
  have passage := (Passage.change change).trans (.wait later)
  rwa [List.append_nil] at passage

/-! ### Origins of entries -/

section
variable {q : Queue} {now : Instant} {e next : QueueEntry} {notes new : List Note} {b after : Books}

/-- An entry keeps its identifier and its budget. -/
theorem Alters.keeps (alters : Alters q now e notes next) :
    next.id = e.id ∧ next.maxAttempts = e.maxAttempts := by
  have cleared : (e.clearElapsed now).id = e.id ∧ (e.clearElapsed now).maxAttempts = e.maxAttempts :=
    ⟨e.id_clearElapsed now, e.maxAttempts_clearElapsed now⟩
  cases alters with
  | failed | retryFailed | modeSet => exact ⟨rfl, rfl⟩
  | cooldownEnded => exact cleared
  | rolledBack => exact cleared
  | retried task takes => exact ⟨congrArg Standing.id takes.standing, takes.maxAttempts⟩

theorem Alters.entry_of_mem (alters : Alters q now e notes next) {n : Note} (noted : n ∈ notes) :
    n.entry = e.id := by
  cases alters with
  | failed | retryFailed =>
    rw [List.mem_singleton.mp noted]
    rfl
  | retried task takes either =>
    rcases either with rfl | rfl
    · cases noted
    · rw [List.mem_singleton.mp noted]
      rfl
  | _ => cases noted

/-- Where an entry after a change comes from: it was there before and nothing is noted of it, it was
changed, or it is the first entry of a failure. -/
theorem Change.origin (change : Change now b new after)
    (issued : ∀ e ∈ b.queue.entries, e.id ∈ b.entryIds) (member : next ∈ after.queue.entries) :
    (next ∈ b.queue.entries ∧ ∀ n ∈ new, n.entry ≠ next.id) ∨
      (∃ e ∈ b.queue.entries, Alters b.queue now e new next) ∨
      ∃ failed mode draw, next = b.queue.newEntry next.id failed mode now draw ∧
        new = [.failure next.id now] ∧ next.id ∉ b.entryIds ∧ next.id ∈ after.entryIds := by
  cases change with
  | altered _ known alters =>
    rcases Keyed.mem_replaceBy.mp member with ⟨rfl, _⟩ | ⟨old, other⟩
    · exact .inr (.inl ⟨_, known, alters⟩)
    · refine .inl ⟨old, fun n noted same => other ?_⟩
      rw [← same, alters.entry_of_mem noted, alters.keeps.1]
  | cleared =>
    obtain ⟨old, known, rfl⟩ := List.mem_map.mp member
    exact .inr (.inl ⟨old, known, .cooldownEnded⟩)
  | @added _ failed mode draw id fresh =>
    rcases List.mem_append.mp member with old | added
    · refine .inl ⟨old, fun n noted same => fresh ?_⟩
      rw [List.mem_singleton.mp noted] at same
      rw [show id = next.id from same]
      exact issued next old
    · obtain rfl := List.mem_singleton.mp added
      exact .inr (.inr ⟨failed, mode, draw, rfl, rfl, fresh,
        List.mem_append_right _ (List.mem_singleton_self _)⟩)
  | dropped old => exact .inl ⟨(List.mem_filter.mp member).1, fun n noted => absurd noted List.not_mem_nil⟩

theorem Change.ids_grow (change : Change now b new after) : ∀ id ∈ b.entryIds, id ∈ after.entryIds := by
  cases change with
  | added => exact fun id member => List.mem_append_left _ member
  | _ => exact fun id member => member

theorem Change.issued (change : Change now b new after)
    (before : ∀ e ∈ b.queue.entries, e.id ∈ b.entryIds) : ∀ e ∈ after.queue.entries, e.id ∈ after.entryIds := by
  intro next member
  rcases change.origin before member with ⟨old, _⟩ | ⟨e, known, alters⟩ | ⟨_, _, _, _, _, _, given⟩
  · exact change.ids_grow _ (before next old)
  · exact change.ids_grow _ (alters.keeps.1 ▸ before e known)
  · exact given

theorem Change.queue_fixed (change : Change now b new after) :
    after.queue.maxAttempts = b.queue.maxAttempts ∧ after.queue.policy = b.queue.policy := by
  cases change <;> exact ⟨rfl, rfl⟩

theorem Passage.policy_eq {m later : Moment} (passage : Passage m notes later) :
    later.queue.policy = m.queue.policy := by
  induction passage with
  | wait => rfl
  | change change => exact change.queue_fixed.2
  | trans _ _ first second => exact second.trans first

end

namespace Queue

variable {q queue : Queue} {id : EntryId} {actor : String} {note : Option String} {force : Bool}
  {now : Instant} {c : Claim} {before : QueueEntry}

/-- A claim that is rolled back at once leaves the entry as it was, but for an ended cooldown. -/
theorem release_of_claim (found : q.find? id = some before)
    (previous : c.previous = before.clearElapsed now) (same : c.entry.id = before.id) :
    (q.replace c.entry).release c now =
      (q.replace ((before.clearElapsed now).touch now),
        some ⟨.released, (before.clearElapsed now).touch now, none, now⟩) := by
  have remembered : c.previous.id = before.id := by
    rw [previous]
    exact before.id_clearElapsed now
  have id_eq : before.id = id := (mem_of_find? found).2
  have other : ((before.clearElapsed now).touch now).id = c.entry.id := by
    rw [same]
    exact before.id_clearElapsed now
  rw [release, remembered, id_eq, find?_replace found same, previous]
  exact congrArg (·, _) (q.replace_replace other)

theorem attach_of_claim (found : q.find? id = some before) {entry : QueueEntry}
    (same : entry.id = before.id) (task : TaskId) :
    (q.replace entry).attach id task = .ok (q.replace { entry with currentTask := some task }) := by
  rw [attach_eq, find?_replace found same]
  exact congrArg Except.ok (q.replace_replace rfl)

end Queue

namespace Engine

def books (e : Engine) : Books := ⟨e.queue, e.stores.entryIds⟩

theorem queue_books (e : Engine) : e.books.queue = e.queue := rfl

def moment (e : Engine) : Moment := ⟨e.books, e.supply.clock, e.supply.readings⟩

theorem sound_books {e : Engine} (coherent : Coherent e.stores.view []) : e.books.Sound :=
  ⟨coherent.issued.unique.entries, coherent.issued.entries, coherent.indexed⟩

/-! ### What leaves the moment alone -/

section frame
variable (e : Engine)

theorem moment_now : e.now.2.moment = { e.moment with readings := e.moment.readings + 1 } := rfl

@[simp] theorem moment_tell (event : LogEvent) : (e.tell event).moment = e.moment := rfl
@[simp] theorem moment_mapMetrics (f : Metrics → Metrics) : (e.mapMetrics f).moment = e.moment := rfl
@[simp] theorem moment_countRefusal (r : Refusal) : (e.countRefusal r).moment = e.moment := rfl
@[simp] theorem moment_takeDraw : e.takeDraw.moment = e.moment := rfl
@[simp] theorem moment_showQueueDepth : e.showQueueDepth.moment = e.moment := rfl
@[simp] theorem moment_showRunning : e.showRunning.moment = e.moment := rfl
@[simp] theorem moment_withRegistry (registry : Registry) : { e with registry }.moment = e.moment := rfl
@[simp] theorem moment_withQueue (queue : Queue) :
    { e with queue }.moment = { e.moment with queue } := rfl
@[simp] theorem moment_withDispatched (dispatched : List Run) :
    { e with dispatched }.moment = e.moment := rfl

theorem moment_takeEntryId : e.takeEntryId.moment =
    { e.moment with entryIds := e.moment.entryIds ++ [e.nextEntryId] } := by
  simp [moment, books, stores, takeEntryId, nextEntryId, List.range_succ]

@[simp] theorem moment_record (record : AuditRecord) : (e.record record).moment = e.moment :=
  apply_record moment (fun _ _ _ _ _ => rfl) e record

@[simp] theorem moment_recordTransition (t : Transition) :
    (e.recordTransition t).moment = e.moment := e.moment_record _

@[simp] theorem moment_recordMutation (m : Mutation) :
    (e.recordMutation m).moment = e.moment := e.moment_record _

@[simp] theorem moment_recordMutations (ms : List Mutation) :
    (ms.foldl recordMutation e).moment = e.moment :=
  apply_recordMutations moment (fun _ _ _ _ _ => rfl) ms e

@[simp] theorem moment_tellTruncation (o : Outcome) : (e.tellTruncation o).moment = e.moment :=
  apply_tellTruncation moment (fun _ _ => rfl) e o

@[simp] theorem moment_openSpan (span : LogSpan) : (e.openSpan span).2.moment = e.moment :=
  apply_openSpan moment (fun _ _ => rfl) e span

end frame

/-! ### Tasks -/

theorem moment_create (e : Engine) (s : Submission) (now : Instant) :
    (e.create s now).1.moment = e.moment := by
  unfold create
  split <;> rfl

theorem moment_dispatch (e : Engine) (t : Task) (attempt : Nat) :
    (e.dispatch t attempt).1.moment = { e.moment with readings := e.moment.readings + 1 } := by
  cases result : e.registry.markRunning t.id t.trace e.now.1 with
  | error r =>
    simp only [dispatch, registry_now, result, moment_countRefusal]
    rfl
  | ok value =>
    simp only [dispatch, registry_now, result, moment_withDispatched, moment_openSpan, moment_showRunning,
      moment_recordTransition, moment_withRegistry]
    rfl

theorem submit_passage (e : Engine) (c : SubmitCommand) :
    Passage e.moment [] (e.submit c).1.moment := by
  let trace := e.link c.traceId
  have start : (e.now.2.create ⟨c.scope, c.actor, c.note, trace, none⟩ e.now.1).1.moment =
      { e.moment with readings := e.moment.readings + 1 } := moment_create ..
  cases result : e.now.2.create ⟨c.scope, c.actor, c.note, trace, none⟩ e.now.1 with
  | mk created answer =>
    rw [result] at start
    cases answer with
    | error r =>
      have after : (e.submit c).1 = created := by
        simp only [submit]
        rw [show e.now.2.create _ e.now.1 = (created, .error r) from result]
      rw [after, start]
      exact .wait (Nat.le_succ _)
    | ok transition =>
      let counted := (created.recordTransition transition).mapMetrics
        (·.increment (Metrics.submittedSeries false))
      have after : (e.submit c).1 = (counted.dispatch transition.task 0).1 := by
        simp only [submit]
        rw [show e.now.2.create _ e.now.1 = (created, .ok transition) from result]
      have between : counted.moment = { e.moment with readings := e.moment.readings + 1 } := by
        simp only [counted, moment_mapMetrics, moment_recordTransition, start]
      rw [after, moment_dispatch, between]
      exact .wait (Nat.le_add_right _ 2)

/-! ### Retries -/

theorem moment_release (e : Engine) (taken : Claim) (now : Instant) :
    (e.release taken now).moment =
      { e.moment with queue := (e.queue.release taken now).1 } := by
  simp only [release]
  cases e.queue.release taken now with
  | mk queue m => cases m <;> simp

theorem moment_attach {e : Engine} {id : EntryId} {task : TaskId} {queue : Queue}
    (accepted : e.queue.attach id task = .ok queue) :
    (e.attach id task).moment = { e.moment with queue } := by
  simp only [attach, accepted]
  rfl

/-- A retry that has claimed its entry either fails and rolls the claim back, or names its task in
the entry and dispatches the task. -/
theorem retry_of_claim {e : Engine} {id : EntryId} {c : RetryCommand} {queue : Queue}
    {taken : Claim} (claimed : e.queue.claim id c.actor c.note c.force e.now.1 = (queue, .ok taken))
    {named : TaskId → Queue} (attached : ∀ task, queue.attach id task = .ok (named task)) :
    ((∃ r, (e.retry id c).2 = .error r) ∧ (e.retry id c).1.moment = { e.moment with
      queue := (queue.release taken e.now.1).1, readings := e.moment.readings + 1 }) ∨
    ∃ task, ((∃ r, (e.retry id c).2 = .error r) ∨
        (e.retry id c).2 = .ok { taken.entry with currentTask := some task }) ∧
      (e.retry id c).1.moment = { e.moment with
        queue := named task, readings := e.moment.readings + 2 } := by
  let holding := taken.mutations.foldl recordMutation
    ({ e.now.2 with queue }.tell (claimedEvent taken c.actor c.force))
  have claims : e.now.2.claim id c e.now.1 = (holding, .ok taken) := by
    simp only [Engine.claim, queue_now, claimed, holding]
  have held : holding.moment = { e.moment with queue, readings := e.moment.readings + 1 } := by
    simp only [holding, moment_recordMutations, moment_tell, moment_withQueue]
    rfl
  let s : Submission := ⟨taken.entry.scope, c.actor, c.note, holding.link none, some id⟩
  have created_moment := holding.moment_create s e.now.1
  cases creation : holding.create s e.now.1 with
  | mk between answer =>
    rw [creation] at created_moment
    have between_moment : between.moment =
        { e.moment with queue, readings := e.moment.readings + 1 } := created_moment.trans held
    cases answer with
    | error r =>
      have result : e.retry id c = (between.release taken e.now.1, .error r) := by
        simp only [retry, claims]
        rw [show holding.create _ e.now.1 = (between, .error r) from creation]
      have queue_eq : between.queue = queue := congrArg (fun m : Moment => m.queue) between_moment
      refine .inl ⟨⟨r, by rw [result]⟩, ?_⟩
      rw [result, moment_release, queue_eq, between_moment]
    | ok created =>
      let counted := (between.recordTransition created).mapMetrics fun m =>
        (m.increment (Metrics.submittedSeries true)).increment (Metrics.retriesSeries taken.entry.mode)
      have counted_moment : counted.moment =
          { e.moment with queue, readings := e.moment.readings + 1 } := by
        simp only [counted, moment_mapMetrics, moment_recordTransition, between_moment]
      have queue_eq : counted.queue = queue := congrArg (fun m : Moment => m.queue) counted_moment
      have dispatched := moment_dispatch (counted.attach id created.task.id) created.task
        taken.entry.attempts
      rw [moment_attach (queue_eq ▸ attached created.task.id), counted_moment] at dispatched
      refine .inr ⟨created.task.id, ?_⟩
      cases dispatch : (counted.attach id created.task.id).dispatch created.task
          taken.entry.attempts with
      | mk after answer =>
        rw [dispatch] at dispatched
        cases answer with
        | error r =>
          have result : e.retry id c = (after, .error r) := by
            simp only [retry, claims]
            rw [show holding.create _ e.now.1 = (between, .ok created) from creation]
            dsimp only
            rw [show Engine.dispatch _ created.task taken.entry.attempts = (after, .error r) from dispatch]
          rw [result]
          exact ⟨.inl ⟨r, rfl⟩, dispatched⟩
        | ok running =>
          have result : e.retry id c =
              (after.tell (dispatchedEvent taken.entry created.task.id c.actor),
                .ok { taken.entry with currentTask := some created.task.id }) := by
            simp only [retry, claims]
            rw [show holding.create _ e.now.1 = (between, .ok created) from creation]
            dsimp only
            rw [show Engine.dispatch _ created.task taken.entry.attempts = (after, .ok running) from dispatch]
          rw [result]
          exact ⟨.inr rfl, dispatched⟩

theorem retryNotes_of_error {e : Engine} {id : EntryId} {c : RetryCommand} {r : Refusal}
    (failure : (e.retry id c).2 = .error r) : e.retryNotes id c = [] := by
  simp only [retryNotes, failure]
  cases e.queue.find? id <;> rfl

theorem retry_passage (e : Engine) (id : EntryId) (c : RetryCommand) :
    Passage e.moment (e.retryNotes id c) (e.retry id c).1.moment := by
  cases claimed : e.queue.claim id c.actor c.note c.force e.now.1 with
  | mk queue answer =>
    cases answer with
    | error r =>
      have result : e.retry id c = ({ e.now.2 with queue }.countRefusal r, .error r) := by
        simp only [retry, Engine.claim, queue_now, claimed]
      rw [retryNotes_of_error (congrArg Prod.snd result), result]
      rcases Queue.claim_error claimed with rfl | ⟨entry, found, _, rfl⟩
      · exact .wait (Nat.le_succ _)
      · exact .change (.altered false (Queue.mem_of_find? found).1 .cooldownEnded)
    | ok taken =>
      obtain ⟨before, found, rfl, previous, takes⟩ := Queue.claim_takes claimed
      have member : before ∈ e.moment.queue.entries := (Queue.mem_of_find? found).1
      have same_id : taken.entry.id = before.id := congrArg Standing.id takes.standing
      rcases retry_of_claim claimed (Queue.attach_of_claim found same_id) with
        ⟨⟨r, failure⟩, moment⟩ | ⟨task, answer, moment⟩
      · rw [retryNotes_of_error failure, moment, Queue.release_of_claim found previous same_id]
        exact .change (.altered false member .rolledBack)
      · rw [moment]
        refine .change_wait (.altered false member (.retried task takes ?_)) (Nat.lt_add_of_pos_right Nat.two_pos)
        rcases answer with ⟨r, failure⟩ | success
        · exact .inl (retryNotes_of_error failure)
        · exact .inr (by simp only [retryNotes, found, success]; rfl)

/-! ### Outcomes -/

theorem enqueue_change {e after : Engine} {failed : Task} {now : Instant} {m : Mutation}
    (result : e.enqueue failed now = (after, .ok m)) (distinct : after.stores.Distinct) :
    ∃ b, Change now e.books [.failure m.entry.id now] b ∧
      after.moment = { e.moment with toBooks := b } := by
  by_cases status : failed.status = .failed
  · cases label : e.queue.idOfLabel? failed.scope.label with
    | none =>
      have accepted : e.queue.enqueue failed .auto now e.nextEntryId e.nextDraw = _ :=
        Queue.enqueue_of_new_label status label
      simp only [enqueue, accepted, if_true] at result
      cases result
      rw [stores_tell, stores_takeEntryId] at distinct
      let overflow := e.queue.overflows (e.queue.newEntry e.nextEntryId failed .auto now e.nextDraw) e.nextDraw
      refine ⟨_, .added overflow failed .auto e.nextDraw (Keyed.not_mem_of_nodup_append distinct.2), ?_⟩
      rw [moment_tell, moment_takeEntryId]
      rfl
    | some id =>
      have accepted : e.queue.enqueue failed .auto now e.nextEntryId e.nextDraw = _ :=
        Queue.enqueue_of_label status label
      cases found : e.queue.find? id with
      | none =>
        simp only [enqueue, accepted, found] at result
        cases result
      | some entry =>
        simp only [enqueue, accepted, found, reduceCtorEq, if_false] at result
        cases result
        exact ⟨_, .altered _ (Queue.mem_of_find? found).1 (.failed failed e.nextDraw), rfl⟩
  · have refused : e.queue.enqueue failed .auto now e.nextEntryId e.nextDraw = _ :=
      Queue.enqueue_of_not_failed status
    simp only [enqueue, refused] at result
    cases result

theorem routeFailure_change {e after : Engine} {failed : Task} {now : Instant} {m : Mutation}
    (result : e.routeFailure failed now = (after, .ok m)) (distinct : after.stores.Distinct) :
    ∃ b, Change now e.books [.failure m.entry.id now] b ∧
      after.moment = { e.moment with toBooks := b } := by
  cases own : failed.retryOf.bind e.queue.find? with
  | none =>
    rcases routeFailure_of_free own now with route | ⟨r, route⟩
    · exact enqueue_change (route.symm.trans result) distinct
    · exact enqueue_change (e := e.countRefusal r) (route.symm.trans result) distinct
  | some entry =>
    have found := (retryOf_of_own own).2
    have accepted := Queue.recordRetryFailure_eq e.queue entry.id failed now e.nextDraw
    rw [found] at accepted
    cases (routeFailure_of_own own accepted).symm.trans result
    exact ⟨_, .altered _ (Queue.mem_of_find? found).1 (.retryFailed failed e.nextDraw), rfl⟩

theorem resolveRetry_change (e : Engine) (done : Task) (now : Instant) :
    (e.resolveRetry done now).moment = e.moment ∨
      ∃ b, Change now e.books [] b ∧
        (e.resolveRetry done now).moment = { e.moment with toBooks := b } := by
  cases retried : done.retryOf with
  | none => exact .inl (by simp only [resolveRetry, retried])
  | some id =>
    cases found : e.queue.find? id with
    | none =>
      refine .inl ?_
      simp only [resolveRetry, retried, Queue.resolve, found]
    | some entry =>
      refine .inr ⟨_, .dropped entry, ?_⟩
      simp only [resolveRetry, retried, Queue.resolve, found, moment_recordMutation, moment_tell]
      rfl

/-- The engine between the end of a task, whatever its outcome, and what follows in the queue. -/
def settling (e : Engine) (reported : Outcome) (registry : Registry) (finished : Transition) : Engine :=
  (({ (e.tellTruncation reported).now.2 with registry }.tell
    (finishedEvent finished.task)).recordTransition finished).mapMetrics
      (·.countFinished finished.task.status finished.task.durationMillis)

theorem moment_settling (e : Engine) (reported : Outcome) (registry : Registry)
    (finished : Transition) : (e.settling reported registry finished).moment =
      { e.moment with readings := e.moment.readings + 1 } := by
  simp only [settling, moment_mapMetrics, moment_recordTransition, moment_tell, moment_withRegistry,
    moment_now, moment_tellTruncation]

/-- The clock is read once, before anything else is done. -/
theorem now_tellTruncation (e : Engine) (o : Outcome) : (e.tellTruncation o).now.1 = e.now.1 := by
  change (e.tellTruncation o).moment.clock (e.tellTruncation o).moment.readings = _
  rw [e.moment_tellTruncation o]
  rfl

/-- A report that ends its task goes on with what follows in the queue. -/
structure Settles (e : Engine) (id : TaskId) (reported : Outcome) (finished : Task) (between : Engine) :
    Prop where
  moment : between.moment = { e.moment with readings := e.moment.readings + 1 }
  ran : (Section.report id (reported.track e.sampleCap)).run
      (e.inputs e.now.1 ((e.tellTruncation reported).now.2.link none)) e.stores =
    (between.stores, Section.settlement finished)
  refuses : ∀ settled r, between.settleQueue finished e.now.1 = (settled, .error r) →
    e.recordOutcome id reported = (settled, .error r)
  accepts : ∀ settled, between.settleQueue finished e.now.1 = (settled, .ok ()) →
    e.recordOutcome id reported = ((settled.showQueueDepth).showRunning, .ok finished)

/-- What a report that the registry accepts goes on with. -/
theorem settles_of_ok {e : Engine} {id : TaskId} {reported : Outcome} {registry : Registry}
    {finished : Transition}
    (accepted : e.registry.recordOutcome id (reported.track e.sampleCap) none
      ((e.tellTruncation reported).now.2.link none) e.now.1 = .ok (registry, finished)) :
    Settles e id reported finished.task (e.settling reported registry finished) := by
  have registry_same : (e.tellTruncation reported).now.2.registry = e.registry :=
    e.registry_tellTruncation reported
  have cap : (e.tellTruncation reported).now.2.sampleCap = e.sampleCap :=
    e.sampleCap_tellTruncation reported
  have stores_same : (e.tellTruncation reported).now.2.stores = e.stores :=
    e.stores_tellTruncation reported
  have reading := e.now_tellTruncation reported
  refine ⟨e.moment_settling reported registry finished, ?_, fun settled r settles => ?_,
    fun settled settles => ?_⟩
  · simp only [Section.run, inputs, show e.stores.registry = e.registry from rfl, accepted, settling,
      stores_mapMetrics, stores_recordTransition, stores_tell, stores_withRegistry, stores_same]
  · simp only [settling, cap] at settles
    simp only [recordOutcome, registry_same, cap, reading, accepted, settles]
  · simp only [settling, cap] at settles
    simp only [recordOutcome, registry_same, cap, reading, accepted, settles]

/-- A report that the registry refuses leaves tasks and queue alone. -/
theorem recordOutcome_of_refusal {e : Engine} {id : TaskId} {reported : Outcome} {r : Refusal}
    (refused : e.registry.recordOutcome id (reported.track e.sampleCap) none
      ((e.tellTruncation reported).now.2.link none) e.now.1 = .error r) :
    e.recordOutcome id reported = ((e.tellTruncation reported).now.2.countRefusal r, .error r) := by
  have registry_same : (e.tellTruncation reported).now.2.registry = e.registry :=
    e.registry_tellTruncation reported
  have cap : (e.tellTruncation reported).now.2.sampleCap = e.sampleCap :=
    e.sampleCap_tellTruncation reported
  simp only [recordOutcome, registry_same, cap, e.now_tellTruncation, refused]

/-- A report either is refused by the registry or ends its task. -/
theorem recordOutcome_cases (e : Engine) (id : TaskId) (reported : Outcome) :
    (∃ r, e.recordOutcome id reported = ((e.tellTruncation reported).now.2.countRefusal r, .error r)) ∨
    ∃ registry finished, e.registry.recordOutcome id (reported.track e.sampleCap) none
        ((e.tellTruncation reported).now.2.link none) e.now.1 = .ok (registry, finished) ∧
      Settles e id reported finished.task (e.settling reported registry finished) := by
  cases result : e.registry.recordOutcome id (reported.track e.sampleCap) none
      ((e.tellTruncation reported).now.2.link none) e.now.1 with
  | error r => exact .inl ⟨r, recordOutcome_of_refusal result⟩
  | ok value => exact .inr ⟨value.1, value.2, rfl, settles_of_ok result⟩

section
variable {e between : Engine} {id : TaskId} {reported : Outcome} {finished : Task}

theorem Settles.books (settles : Settles e id reported finished between) : between.books = e.books :=
  congrArg Moment.toBooks settles.moment

/-- Only routing a failure changes the stores after its task has ended. -/
theorem Settles.stores (settles : Settles e id reported finished between)
    (failed : finished.status = .failed) : (e.recordOutcome id reported).1.stores =
      (between.routeFailure finished e.now.1).1.stores := by
  rw [← stores_settleQueue failed]
  cases result : between.settleQueue finished e.now.1 with
  | mk settled answer =>
    cases answer with
    | error r => rw [settles.refuses settled r result]
    | ok =>
      rw [settles.accepts settled result]
      rfl

/-- Once its task has ended, what a report still has to do is the settlement. -/
theorem Settles.coherent (settles : Settles e id reported finished between)
    (before : Coherent e.stores.view []) (distinct : between.stores.Distinct) :
    Coherent between.stores.view (Section.settlement finished) := by
  have opened := before.open_section (s := .report id (reported.track e.sampleCap)) rfl
  have ended := Stores.coherent_run opened
    (e.inputs e.now.1 ((e.tellTruncation reported).now.2.link none)) (by rw [settles.ran]; exact distinct)
  rw [settles.ran, List.append_nil] at ended
  exact ended

/-- A report that fails its task routes the failure, and succeeds. -/
theorem Settles.routes (settles : Settles e id reported finished between)
    (before : Coherent e.stores.view []) (failed : finished.status = .failed)
    (distinct : (e.recordOutcome id reported).1.stores.Distinct) :
    ∃ routed m, between.routeFailure finished e.now.1 = (routed, .ok m) ∧ routed.stores.Distinct ∧
      routed.queue.findByScope finished.scope = some m.entry ∧
      e.recordOutcome id reported =
        (((routed.recordMutation m).showQueueDepth).showRunning, .ok finished) := by
  rw [settles.stores failed] at distinct
  have coherent := settles.coherent before
    ((between.routeFailure_completes e.now.1 failed).distinct_before distinct)
  obtain ⟨routed, m, route, _, _, found, _⟩ := routeFailure_records coherent failed distinct
  rw [route] at distinct
  exact ⟨routed, m, route, distinct, found, settles.accepts _ (settleQueue_of_route failed route)⟩

/-- A report that does not fail its task succeeds. -/
theorem Settles.resolves (settles : Settles e id reported finished between)
    (succeeded : finished.status ≠ .failed) : e.recordOutcome id reported =
      (((between.resolveRetry finished e.now.1).showQueueDepth).showRunning, .ok finished) :=
  settles.accepts _ (by simp only [settleQueue, succeeded, if_false])

/-- The failure of a task is noted for the entry that it went to, which is then the entry under the
label of the scope. -/
theorem Settles.failure_passage (settles : Settles e id reported finished between)
    (before : Coherent e.stores.view []) (failed : finished.status = .failed)
    (distinct : (e.recordOutcome id reported).1.stores.Distinct) :
    Passage e.moment (e.reportNotes id reported) (e.recordOutcome id reported).1.moment := by
  obtain ⟨routed, m, route, distinct, found, settled⟩ := settles.routes before failed distinct
  obtain ⟨b, change, moved⟩ := routeFailure_change route distinct
  have located : ((routed.recordMutation m).showQueueDepth).showRunning.queue.findByScope
      finished.scope = some m.entry := by
    rw [← found, ← routed.queue_record (.mutation m)]
    rfl
  have notes : e.reportNotes id reported = [.failure m.entry.id e.now.1] := by
    simp only [reportNotes, settled, failed, if_true, located]
    rfl
  rw [notes, settled, moment_showRunning, moment_showQueueDepth, moment_recordMutation, moved,
    settles.moment]
  rw [settles.books] at change
  exact .change change

theorem Settles.success_passage (settles : Settles e id reported finished between)
    (succeeded : finished.status ≠ .failed) :
    Passage e.moment (e.reportNotes id reported) (e.recordOutcome id reported).1.moment := by
  have settled := settles.resolves succeeded
  have notes : e.reportNotes id reported = [] := by
    simp only [reportNotes, settled, succeeded, if_false]
  rw [notes, settled, moment_showRunning, moment_showQueueDepth]
  rcases between.resolveRetry_change finished e.now.1 with same | ⟨b, change, moved⟩
  · rw [same, settles.moment]
    exact .wait (Nat.le_succ _)
  · rw [settles.books] at change
    rw [moved, settles.moment]
    exact .change change

end

/-- A report changes the queue at most once. -/
theorem report_passage {e : Engine} (coherent : Coherent e.stores.view []) (id : TaskId)
    (reported : Outcome) (distinct : (e.recordOutcome id reported).1.stores.Distinct) :
    Passage e.moment (e.reportNotes id reported) (e.recordOutcome id reported).1.moment := by
  rcases e.recordOutcome_cases id reported with ⟨r, result⟩ | ⟨registry, finished, _, settles⟩
  · have notes : e.reportNotes id reported = [] := by simp only [reportNotes, result]
    rw [notes, result, moment_countRefusal, moment_now, moment_tellTruncation]
    exact .wait (Nat.le_succ _)
  · by_cases failed : finished.task.status = .failed
    · exact settles.failure_passage coherent failed distinct
    · exact settles.success_passage failed

/-! ### Operators -/

theorem remove_passage (e : Engine) (id : EntryId) (actor : Option String) :
    Passage e.moment [] (e.remove id actor).1.moment := by
  cases found : e.queue.find? id with
  | none =>
    have result : (e.remove id actor).1.moment = { e.moment with readings := e.moment.readings + 1 } := by
      simp only [Engine.remove, queue_now, Queue.remove_eq, found, moment_countRefusal]
      rfl
    rw [result]
    exact .wait (Nat.le_succ _)
  | some entry =>
    have result : (e.remove id actor).1.moment = { e.moment with
        queue := e.queue.drop entry, readings := e.moment.readings + 1 } := by
      simp only [Engine.remove, queue_now, Queue.remove_eq, found, moment_showQueueDepth,
        moment_recordMutation, moment_tell, moment_withQueue]
      rfl
    rw [result]
    exact .change (.dropped entry)

theorem setRetryMode_passage (e : Engine) (id : EntryId) (mode : RetryMode) (actor : String) :
    Passage e.moment [] (e.setRetryMode id mode actor).1.moment := by
  cases found : e.queue.find? id with
  | none =>
    have result : (e.setRetryMode id mode actor).1.moment =
        { e.moment with readings := e.moment.readings + 1 } := by
      simp only [Engine.setRetryMode, queue_now, Queue.setMode_eq, found, moment_countRefusal]
      rfl
    rw [result]
    exact .wait (Nat.le_succ _)
  | some entry =>
    let switched := e.queue.withMode entry mode e.now.1 e.nextDraw
    have result : (e.setRetryMode id mode actor).1.moment = { e.moment with
        queue := (e.queue.noteOverflow (e.queue.overflows switched e.nextDraw)).replace switched
        readings := e.moment.readings + 1 } := by
      simp only [Engine.setRetryMode, queue_now, Queue.setMode_eq, found, moment_recordMutation, moment_tell,
        moment_takeDraw, moment_withQueue]
      rfl
    rw [result]
    exact .change (.altered _ (Queue.mem_of_find? found).1 (.modeSet mode e.nextDraw))

/-! ### Scheduling -/

theorem moment_timeOut (e : Engine) (id : TaskId) :
    (e.timeOut id).1.moment = (e.recordOutcome id .timeout).1.moment := by
  unfold timeOut
  split <;> simp [*]

theorem stores_timeOut (e : Engine) (id : TaskId) :
    (e.timeOut id).1.stores = (e.recordOutcome id .timeout).1.stores := by
  unfold timeOut
  split <;> simp [*]

theorem timeOut_passage {e : Engine} (coherent : Coherent e.stores.view []) (id : TaskId)
    (distinct : (e.timeOut id).1.stores.Distinct) :
    Passage e.moment (e.reportNotes id .timeout) (e.timeOut id).1.moment := by
  rw [stores_timeOut] at distinct
  rw [moment_timeOut]
  exact report_passage coherent id .timeout distinct

theorem timeOutAll_passage {e : Engine} (coherent : Coherent e.stores.view []) (ids : List TaskId)
    (distinct : (e.timeOutAll ids).1.stores.Distinct) :
    Passage e.moment (e.timeOutNotes ids) (e.timeOutAll ids).1.moment := by
  induction ids generalizing e with
  | nil => exact .refl e.moment
  | cons id rest ih =>
    have distinct_first : (e.timeOut id).1.stores.Distinct :=
      ((e.timeOut id).1.timeOutAll_completes rest).distinct_before distinct
    have coherent_first : Coherent (e.timeOut id).1.stores.view [] :=
      (e.timeOut_completes id).coherent (coherent.open_section rfl) distinct_first
    exact (timeOut_passage coherent id distinct_first).trans (ih coherent_first distinct)

theorem runWatchdog_passage {e : Engine} (coherent : Coherent e.stores.view [])
    (distinct : e.runWatchdog.1.stores.Distinct) :
    Passage e.moment e.watchdogNotes e.runWatchdog.1.moment := by
  have reading : Passage e.moment [] e.now.2.moment := .wait (Nat.le_succ _)
  exact reading.trans (timeOutAll_passage (e := e.now.2) coherent _ distinct)

theorem moment_retryOne (e : Engine) (id : EntryId) :
    (e.retryOne id).1.moment = (e.retry id ⟨schedulerActor, none, false⟩).1.moment := by
  unfold retryOne
  split <;> simp [*]

theorem retryAll_passage (e : Engine) (ids : List EntryId) :
    Passage e.moment (e.retryAllNotes ids) (e.retryAll ids).1.moment := by
  induction ids generalizing e with
  | nil => exact .refl e.moment
  | cons id rest ih =>
    have first : Passage e.moment (e.retryNotes id ⟨schedulerActor, none, false⟩)
        (e.retryOne id).1.moment := by
      rw [moment_retryOne]
      exact e.retry_passage id _
    exact first.trans (ih (e.retryOne id).1)

theorem cleared_passage (e : Engine) : Passage e.moment [] e.cleared.moment := .change .cleared

theorem swept_completes (e : Engine) : Completes e.cleared.stores [.sweep e.timeout] e.swept.stores :=
  e.cleared.runWatchdog_completes

theorem distinct_swept {e : Engine} (distinct : e.tick.1.stores.Distinct) : e.swept.stores.Distinct :=
  (e.swept.now.2.retryAll_completes e.due).distinct_before distinct

/-- What a pass of the scheduler does before it retries entries. -/
theorem swept_passage {e : Engine} (coherent : Coherent e.stores.view [])
    (distinct : e.swept.stores.Distinct) :
    Passage e.moment e.cleared.watchdogNotes e.swept.moment := by
  have clears : Completes e.stores [.clearCooldowns] e.cleared.stores :=
    .step (e.inputs e.now.1 none) (.done _)
  have distinct_cleared := e.swept_completes.distinct_before distinct
  have coherent_cleared := clears.coherent (coherent.open_section rfl) distinct_cleared
  exact e.cleared_passage.trans (runWatchdog_passage coherent_cleared distinct)

theorem tick_passage {e : Engine} (coherent : Coherent e.stores.view [])
    (distinct : e.tick.1.stores.Distinct) :
    Passage e.moment (e.cleared.watchdogNotes ++ e.swept.now.2.retryAllNotes e.due) e.tick.1.moment := by
  have reading : Passage e.swept.moment [] e.swept.now.2.moment := .wait (Nat.le_succ _)
  exact (swept_passage coherent (distinct_swept distinct)).trans
    (reading.trans (e.swept.now.2.retryAll_passage e.due))

/-! ### Runs -/

/-- A complete call is a passage of the queue. -/
theorem perform_passage {e : Engine} (coherent : Coherent e.stores.view []) (c : Call)
    (distinct : (e.perform c).stores.Distinct) :
    Passage e.moment (e.notes c) (e.perform c).moment := by
  cases c with
  | submit c => exact e.submit_passage c
  | retry id c => exact e.retry_passage id c
  | recordOutcome id reported => exact report_passage coherent id reported distinct
  | remove id actor => exact e.remove_passage id actor
  | setRetryMode id mode actor => exact e.setRetryMode_passage id mode actor
  | runWatchdog => exact runWatchdog_passage coherent distinct
  | tick => exact tick_passage coherent distinct

theorem moment_of_aside {e after : Engine} (beside : Aside e after)
    (clock : after.supply.clock = e.supply.clock) :
    after.moment = { e.moment with readings := after.supply.readings } := by
  have queue : after.queue = e.queue := congrArg Stores.queue beside.stores
  simp only [moment, books, beside.stores, queue, clock]

/-- A chronicle is a passage of the queue with the same notes. -/
theorem Chronicle.passage {start e : Engine} {notes : List Note} (h : Chronicle start notes e)
    (reachable : start.Reachable) : Passage start.moment notes e.moment := by
  induction h with
  | start => exact .refl start.moment
  | @aside notes e after _ beside clock readings ih =>
    have wait : Passage e.moment [] after.moment := by
      rw [moment_of_aside beside clock]
      exact .wait readings
    have passage := ih.trans wait
    rwa [List.append_nil] at passage
  | @call notes e c before distinct ih =>
    exact ih.trans (perform_passage (before.reachable reachable).coherent c distinct)

end Engine

end Reindexing
