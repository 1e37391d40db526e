import Reindexing.Proofs.Engine.Passages
import Reindexing.Proofs.Queue.Bounds

/-!
# Refused calls

A call that is refused leaves tasks, history, entries and audit trail as they
were. For a report this means that nothing which comes after the end of its task
can be refused; for a submission, that the task it has created can be started;
and for a claim, that the cooldown it drops before it looks whether the entry is
eligible has not ended. The last is no matter of course: it holds because an entry
cools down only while nothing else keeps it from being retried.
-/
namespace Reindexing

/-- Whether a refusal says that there is no such entry, or that it may not be retried now. -/
def Refusal.isOfEntry : Refusal → Bool
  | .entryNotFound _ | .notEligible .. => true
  | _ => false

/-- Marking a task as running is never refused because of an entry. -/
theorem Registry.markRunning_refuses {registry : Registry} {id : TaskId} {trace : Option TraceLink}
    {now : Instant} {r : Refusal} (failure : registry.markRunning id trace now = .error r) :
    r.isOfEntry = false := by
  cases found : registry.find? id with
  | none =>
    simp only [markRunning, get, found, bind, Except.bind] at failure
    cases failure
    rfl
  | some t =>
    rw [markRunning_of_find? found, Task.start_eq] at failure
    split at failure
    · cases failure
      rfl
    · split at failure <;> cases failure
      rfl

/-! ### Regular entries of engines -/

section
variable {q : Queue} {now : Instant} {e next : QueueEntry} {notes : List Note} {b after : Books}
  {budget : Nat}

theorem Alters.regular (alters : Alters q now e notes next) (before : e.Regular budget) :
    next.Regular budget := by
  cases alters with
  | failed => exact before.repeatedFailure ..
  | retryFailed => exact before.retryFailed ..
  | modeSet => exact before.withMode ..
  | cooldownEnded => exact before.clearElapsed now
  | rolledBack => exact (before.clearElapsed now).touch now
  | retried task takes => exact (before.claimed takes).attach task

/-- The queue has this budget, and its entries keep to it. -/
structure Books.Regular (budget : Nat) (b : Books) : Prop where
  queue : b.queue.maxAttempts = budget
  entries : ∀ e ∈ b.queue.entries, e.Regular budget

theorem Change.regular (change : Change now b notes after) (before : b.Regular budget) :
    after.Regular budget where
  queue := change.queue_fixed.1.trans before.queue
  entries := by
    intro s member
    cases change with
    | altered _ known alters =>
      rcases Keyed.mem_replaceBy.mp member with ⟨rfl, _⟩ | ⟨old, _⟩
      · exact alters.regular (before.entries _ known)
      · exact before.entries s old
    | cleared =>
      obtain ⟨e, known, rfl⟩ := List.mem_map.mp member
      exact (before.entries e known).clearElapsed now
    | added =>
      rcases List.mem_append.mp member with old | new
      · exact before.entries s old
      · obtain rfl := List.mem_singleton.mp new
        exact before.queue ▸ .newEntry ..
    | dropped => exact before.entries s (List.mem_filter.mp member).1

theorem Passage.regular {m last : Moment} (passage : Passage m notes last) (before : m.Regular budget) :
    last.Regular budget := by
  induction passage with
  | wait => exact before
  | change change => exact change.regular before
  | trans _ _ ih_first ih_second => exact ih_second (ih_first before)

end

namespace Engine

variable {e after : Engine} {r : Refusal} {now : Instant}

theorem Reachable.regular (h : e.Reachable) : ∃ budget, e.books.Regular budget := by
  induction h with
  | start config audit disk runner supply => exact ⟨_, rfl, List.forall_mem_nil _⟩
  | aside _ beside ih =>
    obtain ⟨budget, regular⟩ := ih
    have queue := congrArg Stores.queue beside.stores
    exact ⟨budget, (congrArg Queue.maxAttempts queue).trans regular.queue, fun s member =>
      regular.entries s (congrArg Queue.entries queue ▸ member)⟩
  | call c before distinct ih =>
    obtain ⟨budget, regular⟩ := ih
    exact ⟨budget, (perform_passage before.coherent c distinct).regular regular⟩

/-! ### What calls do that are refused -/

/-- Tasks, history, entries and audit trail of an engine are as they were. -/
structure Untouched (e after : Engine) : Prop extends SameTrail e after where
  queue : after.queue = e.queue

theorem untouched_countRefusal (e : Engine) (r : Refusal) : e.Untouched (e.now.2.countRefusal r) :=
  ⟨⟨rfl, rfl⟩, rfl⟩

theorem untouched_tellTruncation (e : Engine) (o : Outcome) : e.Untouched (e.tellTruncation o) := by
  unfold tellTruncation
  split
  · split <;> exact ⟨⟨rfl, rfl⟩, rfl⟩
  · split <;> exact ⟨⟨rfl, rfl⟩, rfl⟩
  · exact ⟨⟨rfl, rfl⟩, rfl⟩

/-- A task that waits can be dispatched. -/
theorem dispatch_accepts {t : Task} (found : e.registry.find? t.id = some t)
    (waiting : t.status.isWaiting = true) (attempt : Nat) :
    ∃ after running, e.dispatch t attempt = (after, .ok running) := by
  have accepted : e.now.2.registry.markRunning t.id t.trace e.now.1 = _ :=
    Registry.markRunning_of_waiting found waiting t.trace
  simp only [dispatch, accepted]
  exact ⟨_, _, rfl⟩

/-- A submission that the registry accepts succeeds. -/
theorem submit_of_accepted (coherent : Coherent e.stores.view []) {c : SubmitCommand} {registry : Registry}
    {created : Transition} (accepted : e.registry.submit e.nextTaskId
      ⟨c.scope, c.actor, c.note, e.link c.traceId, none⟩ e.now.1 = .ok (registry, created))
    (distinct : (e.submit c).1.stores.Distinct) : ∃ after running, e.submit c = (after, .ok running) := by
  obtain ⟨between, creates, stores_between⟩ := create_ok (e := e.now.2) accepted
  let ready := (between.recordTransition created).mapMetrics (·.increment (Metrics.submittedSeries false))
  have stores_ready : ready.stores = between.stores := by simp [ready]
  have submitted : e.submit c = ready.dispatch created.task 0 := by simp only [submit, creates, ready]
  rw [submitted] at distinct ⊢
  have distinct_ready := (ready.dispatch_completes created.task 0).distinct_before distinct
  rw [stores_ready, stores_between] at distinct_ready
  obtain ⟨found, waiting⟩ := Registry.find?_submitted coherent.issued.unique.tasks
    (coherent.issued.fresh_task distinct_ready.1) accepted
  have registry_ready : ready.registry = registry :=
    congrArg Stores.registry (stores_ready.trans stores_between)
  exact dispatch_accepts (registry_ready ▸ found) waiting 0

/-- A submission is refused only before it has created its task. -/
theorem submit_refused (coherent : Coherent e.stores.view []) {c : SubmitCommand}
    (failure : e.submit c = (after, .error r)) (distinct : after.supply.Distinct) : e.Untouched after := by
  cases result : e.registry.submit e.nextTaskId ⟨c.scope, c.actor, c.note, e.link c.traceId, none⟩
      e.now.1 with
  | error s =>
    have refused := create_error (e := e.now.2) result
    simp only [submit, refused] at failure
    cases failure
    exact e.untouched_countRefusal _
  | ok value =>
    have completes : (e.submit c).1.stores.Distinct := by
      rw [failure]
      exact distinct
    obtain ⟨_, _, accepted⟩ := submit_of_accepted coherent result completes
    rw [failure] at accepted
    cases accepted

/-- A report that ends its task succeeds. -/
theorem Settles.accepted {id : TaskId} {reported : Outcome} {finished : Task} {between : Engine}
    (settles : Settles e id reported finished between) (coherent : Coherent e.stores.view [])
    (distinct : (e.recordOutcome id reported).1.stores.Distinct) :
    ∃ after, e.recordOutcome id reported = (after, .ok finished) := by
  by_cases failed : finished.status = .failed
  · obtain ⟨_, _, _, _, _, settled⟩ := settles.routes coherent failed distinct
    exact ⟨_, settled⟩
  · exact ⟨_, settles.resolves failed⟩

theorem recordOutcome_refused (coherent : Coherent e.stores.view []) {id : TaskId} {reported : Outcome}
    (failure : e.recordOutcome id reported = (after, .error r)) (distinct : after.supply.Distinct) :
    e.Untouched after := by
  have completes : (e.recordOutcome id reported).1.stores.Distinct := by
    rw [failure]
    exact distinct
  rcases e.recordOutcome_cases id reported with ⟨s, result⟩ | ⟨_, _, _, settles⟩
  · rw [result] at failure
    cases failure
    obtain ⟨⟨trail, registry⟩, queue⟩ := e.untouched_tellTruncation reported
    exact ⟨⟨trail, registry⟩, queue⟩
  · obtain ⟨last, accepted⟩ := settles.accepted coherent completes
    rw [accepted] at failure
    cases failure

/-- The report of a running task is never refused. -/
theorem recordOutcome_accepts (coherent : Coherent e.stores.view []) {t : Task}
    (task : t ∈ e.registry.tasks) (running : t.status = .running) (reported : Outcome)
    (distinct : (e.recordOutcome t.id reported).1.stores.Distinct) :
    ∃ after done, e.recordOutcome t.id reported = (after, .ok done) := by
  have found := Registry.find?_of_mem coherent.issued.unique.tasks task
  have ends : e.registry.recordOutcome t.id (reported.track e.sampleCap) none
      ((e.tellTruncation reported).now.2.link none) e.now.1 = _ :=
    Registry.recordOutcome_of_running found running _ none _
  obtain ⟨last, accepted⟩ := (settles_of_ok ends).accepted coherent distinct
  exact ⟨last, _, accepted⟩

theorem remove_refused {id : EntryId} {actor : Option String}
    (failure : e.remove id actor = (after, .error r)) : e.Untouched after := by
  cases result : e.queue.remove id actor e.now.1 with
  | error s =>
    simp only [Engine.remove, queue_now, result] at failure
    cases failure
    exact e.untouched_countRefusal _
  | ok value =>
    simp only [Engine.remove, queue_now, result] at failure
    cases failure

theorem setRetryMode_refused {id : EntryId} {mode : RetryMode} {actor : String}
    (failure : e.setRetryMode id mode actor = (after, .error r)) : e.Untouched after := by
  cases result : e.queue.setMode id mode actor e.now.1 e.nextDraw with
  | error s =>
    simp only [Engine.setRetryMode, queue_now, nextDraw_now, result] at failure
    cases failure
    exact e.untouched_countRefusal _
  | ok value =>
    simp only [Engine.setRetryMode, queue_now, nextDraw_now, result] at failure
    cases failure

/-! ### Retries -/

theorem create_refuses {s : Submission} (failure : e.create s now = (after, .error r)) :
    r.isOfEntry = false := by
  cases result : e.registry.submit e.nextTaskId s now with
  | error t =>
    rw [create_error result] at failure
    cases failure
    obtain ⟨_, _, rfl⟩ := Registry.submit_error result
    rfl
  | ok value =>
    obtain ⟨between, accepted, _⟩ := create_ok result
    rw [accepted] at failure
    cases failure

theorem dispatch_refuses {t : Task} {attempt : Nat} (failure : e.dispatch t attempt = (after, .error r)) :
    r.isOfEntry = false := by
  cases result : e.registry.markRunning t.id t.trace e.now.1 with
  | error s =>
    simp only [dispatch, registry_now, result] at failure
    cases failure
    exact Registry.markRunning_refuses result
  | ok value =>
    simp only [dispatch, registry_now, result] at failure
    cases failure

/-- Only its claim refuses a retry because of its entry. -/
theorem claim_of_retry_refused {id : EntryId} {c : RetryCommand} (failure : e.retry id c = (after, .error r))
    (ofEntry : r.isOfEntry = true) :
    ∃ queue, e.queue.claim id c.actor c.note c.force e.now.1 = (queue, .error r) ∧
      after = { e.now.2 with queue }.countRefusal r := by
  have other : r.isOfEntry ≠ false := by simp [ofEntry]
  cases claimed : e.queue.claim id c.actor c.note c.force e.now.1 with
  | mk queue answer =>
    cases answer with
    | error s =>
      simp only [retry, Engine.claim, queue_now, claimed] at failure
      cases failure
      exact ⟨queue, rfl, rfl⟩
    | ok taken =>
      obtain ⟨holding, claims, _⟩ := claim_ok (e := e.now.2) claimed
      simp only [retry, claims] at failure
      split at failure
      · next refused =>
        cases failure
        exact absurd (create_refuses refused) other
      · split at failure
        · next refused =>
          cases failure
          exact absurd (dispatch_refuses refused) other
        · cases failure

/-- A claim that is refused in an engine that occurs in a run changes no entry. -/
theorem Reachable.claim_refused (h : e.Reachable) {id : EntryId} {actor : String} {note : Option String}
    {force : Bool} {queue : Queue} (failure : e.queue.claim id actor note force now = (queue, .error r)) :
    queue = e.queue := by
  obtain ⟨budget, regular⟩ := h.regular
  exact Queue.claim_refused (sound_books h.coherent).unique_ids regular.entries failure

theorem retry_refused (h : e.Reachable) {id : EntryId} {c : RetryCommand}
    (failure : e.retry id c = (after, .error r)) (ofEntry : r.isOfEntry = true) : e.Untouched after := by
  obtain ⟨queue, claimed, rfl⟩ := claim_of_retry_refused failure ofEntry
  exact ⟨⟨rfl, rfl⟩, h.claim_refused claimed⟩

/-- Refused calls leave no trace in tasks, history, entries and audit trail. A retry is meant that is
refused because of its entry; the report of a running task is never refused, and a refused claim leaves
its entry as it is, cooldown included. -/
theorem refused_calls_leave_no_trace (h : e.Reachable) :
    (∀ c after r, e.submit c = (after, .error r) → after.supply.Distinct → e.Untouched after) ∧
    (∀ id reported after r, e.recordOutcome id reported = (after, .error r) → after.supply.Distinct →
      e.Untouched after) ∧
    (∀ id actor after r, e.remove id actor = (after, .error r) → e.Untouched after) ∧
    (∀ id mode actor after r, e.setRetryMode id mode actor = (after, .error r) → e.Untouched after) ∧
    (∀ id c after r, e.retry id c = (after, .error r) →
      (∃ entry, r = .entryNotFound entry) ∨ (∃ entry reason, r = .notEligible entry reason) →
      e.Untouched after) ∧
    (∀ t ∈ e.registry.tasks, t.status = .running → ∀ reported,
      (e.perform (.recordOutcome t.id reported)).supply.Distinct →
      ∃ after done, e.recordOutcome t.id reported = (after, .ok done)) ∧
    (∀ id actor note force now queue r, e.queue.claim id actor note force now = (queue, .error r) →
      queue = e.queue) := by
  refine ⟨?_, ?_, ?_, ?_, ?_, ?_, ?_⟩
  · exact fun _ _ _ failure distinct => submit_refused h.coherent failure distinct
  · exact fun _ _ _ _ failure distinct => recordOutcome_refused h.coherent failure distinct
  · exact fun _ _ _ _ failure => remove_refused failure
  · exact fun _ _ _ _ _ failure => setRetryMode_refused failure
  · intro id c after r failure reason
    refine retry_refused h failure ?_
    rcases reason with ⟨_, rfl⟩ | ⟨_, _, rfl⟩ <;> rfl
  · exact fun t task running reported distinct =>
      recordOutcome_accepts h.coherent task running reported distinct
  · exact fun _ _ _ _ _ _ _ failure => h.claim_refused failure

/-- While the retry of an entry runs, the scheduler retries the entry as well, somebody submits its
scope, and an operator removes an entry that is not there. -/
theorem no_trace_of_refused_calls_during_a_retry :
    ∃ e : Engine, e.Reachable ∧ e.queue.entries.map (·.status) = [.running] ∧
      (∃ after, e.submit ⟨.all, "ops", none, none⟩ = (after, .error (.scopeBusy .all ⟨.ofNat 1⟩)) ∧
        after.supply.Distinct ∧ e.Untouched after) ∧
      (∃ after, e.retry ⟨.ofNat 0⟩ ⟨schedulerActor, none, false⟩ =
        (after, .error (.notEligible ⟨.ofNat 0⟩ .inFlight)) ∧ e.Untouched after) ∧
      (∃ after, e.remove ⟨.ofNat 1⟩ none = (after, .error (.entryNotFound ⟨.ofNat 1⟩)) ∧
        e.Untouched after) := by
  let supply : Supply :=
    ⟨fun _ => .epoch, fun n => ⟨.ofNat n⟩, fun n => ⟨.ofNat n⟩, fun _ => 0, 0, 0, 0, 0⟩
  let submitted := (Engine.ofConfig .default (.inMemory 100) .empty .parked supply).perform
    (.submit ⟨.all, "ops", none, none⟩)
  let failed := submitted.perform (.recordOutcome ⟨.ofNat 0⟩ (.failure "E" none))
  let manual := failed.perform (.setRetryMode ⟨.ofNat 0⟩ .manual "ops")
  let e := manual.perform (.retry ⟨.ofNat 0⟩ ⟨"ops", none, false⟩)
  have reachable : e.Reachable := ((((Reachable.start ..).call _ (by decide)).call _ (by decide)).call _
    (by decide)).call _ (by decide)
  obtain ⟨submits, _, removes, _, retries, _⟩ := refused_calls_leave_no_trace reachable
  have pair : ∀ {α : Type} {p : Engine × Except Refusal α} {r : Refusal}, p.2 = .error r →
      p = (p.1, .error r) := fun same => Prod.ext rfl same
  have busy := pair (show (e.submit ⟨.all, "ops", none, none⟩).2 =
    .error (.scopeBusy .all ⟨.ofNat 1⟩) by decide +kernel)
  have distinct : (e.submit ⟨.all, "ops", none, none⟩).1.supply.Distinct := by decide +kernel
  have taken := pair (show (e.retry ⟨.ofNat 0⟩ ⟨schedulerActor, none, false⟩).2 =
    .error (.notEligible ⟨.ofNat 0⟩ .inFlight) by decide +kernel)
  have absent := pair (show (e.remove ⟨.ofNat 1⟩ none).2 =
    .error (.entryNotFound ⟨.ofNat 1⟩) by decide +kernel)
  exact ⟨e, reachable, by decide, ⟨_, busy, distinct, submits _ _ _ busy distinct⟩,
    ⟨_, taken, retries _ _ _ _ taken (.inr ⟨_, _, rfl⟩)⟩, ⟨_, absent, removes _ _ _ _ absent⟩⟩

end Engine

end Reindexing
