import Reindexing.Proofs.Engine.Chronicle

/-!
# The setup of an engine

What an engine was set up with, no call changes: how long a task may run, how many
samples are kept, how traces are linked and who runs the tasks. The clock stays the
same as well and is read further and further. None of this needs the stores to
cohere, so it can be used of calls in any engine.
-/
namespace Reindexing.Engine

/-- What an engine was set up with, and how far its clock was read. -/
structure Setup where
  timeout : Span
  sampleCap : Nat
  linker : TraceLinker
  runner : Runner
  clock : Nat → Instant
  readings : Nat

def setup (e : Engine) : Setup :=
  ⟨e.timeout, e.sampleCap, e.linker, e.runner, e.supply.clock, e.supply.readings⟩

/-! ### What leaves the setup alone -/

section frame
variable (e : Engine)

@[simp] theorem setup_tell (event : LogEvent) : (e.tell event).setup = e.setup := rfl
@[simp] theorem setup_mapMetrics (f : Metrics → Metrics) : (e.mapMetrics f).setup = e.setup := rfl
@[simp] theorem setup_countRefusal (r : Refusal) : (e.countRefusal r).setup = e.setup := rfl
@[simp] theorem setup_showQueueDepth : e.showQueueDepth.setup = e.setup := rfl
@[simp] theorem setup_showRunning : e.showRunning.setup = e.setup := rfl
@[simp] theorem setup_withQueue (queue : Queue) : { e with queue }.setup = e.setup := rfl
@[simp] theorem setup_withRegistry (registry : Registry) : { e with registry }.setup = e.setup := rfl
@[simp] theorem setup_withDispatched (dispatched : List Run) : { e with dispatched }.setup = e.setup := rfl

@[simp] theorem setup_record (record : AuditRecord) : (e.record record).setup = e.setup :=
  apply_record setup (fun _ _ _ _ _ => rfl) e record

@[simp] theorem setup_recordTransition (t : Transition) : (e.recordTransition t).setup = e.setup :=
  e.setup_record _

@[simp] theorem setup_recordMutation (m : Mutation) : (e.recordMutation m).setup = e.setup :=
  e.setup_record _

@[simp] theorem setup_recordMutations (ms : List Mutation) : (ms.foldl recordMutation e).setup = e.setup :=
  apply_recordMutations setup (fun _ _ _ _ _ => rfl) ms e

@[simp] theorem setup_openSpan (span : LogSpan) : (e.openSpan span).2.setup = e.setup :=
  apply_openSpan setup (fun _ _ => rfl) e span

@[simp] theorem setup_tellTruncation (o : Outcome) : (e.tellTruncation o).setup = e.setup :=
  apply_tellTruncation setup (fun _ _ => rfl) e o

theorem setup_create (s : Submission) (now : Instant) : (e.create s now).1.setup = e.setup := by
  unfold create
  split <;> rfl

theorem setup_enqueue (failed : Task) (now : Instant) : (e.enqueue failed now).1.setup = e.setup := by
  unfold Engine.enqueue
  split
  · rfl
  · split <;> rfl

theorem setup_routeFailure (failed : Task) (now : Instant) :
    (e.routeFailure failed now).1.setup = e.setup := by
  unfold routeFailure
  split
  · exact e.setup_enqueue failed now
  · split
    · rfl
    · exact setup_enqueue _ failed now

theorem setup_resolveRetry (done : Task) (now : Instant) : (e.resolveRetry done now).setup = e.setup := by
  unfold resolveRetry
  split
  · rfl
  · split
    · exact setup_recordMutation _ _
    · rfl

theorem setup_settleQueue (done : Task) (now : Instant) : (e.settleQueue done now).1.setup = e.setup := by
  have routed := e.setup_routeFailure done now
  unfold settleQueue
  split
  · split
    · next result => rwa [result] at routed
    · next after m result =>
      rw [result] at routed
      exact (after.setup_recordMutation m).trans routed
  · exact e.setup_resolveRetry done now

theorem setup_claim (id : EntryId) (c : RetryCommand) (now : Instant) :
    (e.claim id c now).1.setup = e.setup := by
  unfold Engine.claim
  split
  · rfl
  · exact setup_recordMutations _ _

theorem setup_release (taken : Claim) (now : Instant) : (e.release taken now).setup = e.setup := by
  unfold Engine.release
  split
  · exact setup_recordMutation _ _
  · rfl

theorem setup_attach (id : EntryId) (task : TaskId) : (e.attach id task).setup = e.setup := by
  unfold Engine.attach
  split <;> rfl

theorem setup_dispatch (t : Task) (attempt : Nat) : (e.dispatch t attempt).1.setup = e.now.2.setup := by
  unfold dispatch
  dsimp only
  split
  · rfl
  · simp

end frame

/-! ### Calls -/

/-- An engine with the setup of an earlier one, and a clock that may have been read further. -/
structure Advances (e after : Engine) : Prop where
  setup : after.setup = { e.setup with readings := after.supply.readings }
  readings : e.supply.readings ≤ after.supply.readings

variable {e between after : Engine}

namespace Advances

theorem of_setup (same : after.setup = e.setup) : e.Advances after := by
  have readings : after.supply.readings = e.supply.readings := congrArg Setup.readings same
  exact ⟨by rw [same, readings]; rfl, Nat.le_of_eq readings.symm⟩

theorem refl (e : Engine) : e.Advances e := .of_setup rfl

theorem now (e : Engine) : e.Advances e.now.2 := ⟨rfl, Nat.le_succ _⟩

theorem trans (first : e.Advances between) (second : between.Advances after) : e.Advances after where
  setup := by rw [second.setup, first.setup]
  readings := Nat.le_trans first.readings second.readings

theorem clock_eq (advances : e.Advances after) : after.supply.clock = e.supply.clock :=
  congrArg Setup.clock advances.setup

theorem timeout_eq (advances : e.Advances after) : after.timeout = e.timeout :=
  congrArg Setup.timeout advances.setup

end Advances

theorem dispatch_advances (e : Engine) (t : Task) (attempt : Nat) : e.Advances (e.dispatch t attempt).1 :=
  (Advances.now e).trans (.of_setup (e.setup_dispatch t attempt))

theorem submit_advances (e : Engine) (c : SubmitCommand) : e.Advances (e.submit c).1 := by
  have creates := e.now.2.setup_create ⟨c.scope, c.actor, c.note, e.link c.traceId, none⟩ e.now.1
  refine (Advances.now e).trans ?_
  unfold submit
  dsimp only
  split
  · next after r result =>
    rw [result] at creates
    exact .of_setup creates
  · next after created result =>
    rw [result] at creates
    refine .trans (.of_setup ?_) (dispatch_advances _ created.task 0)
    rw [setup_mapMetrics, setup_recordTransition]
    exact creates

theorem recordOutcome_advances (e : Engine) (id : TaskId) (reported : Outcome) :
    e.Advances (e.recordOutcome id reported).1 := by
  have told : e.Advances (e.tellTruncation reported) := .of_setup (e.setup_tellTruncation reported)
  refine told.trans ((Advances.now _).trans ?_)
  unfold recordOutcome
  dsimp only
  split
  · exact .of_setup (setup_countRefusal ..)
  · next registry finished _ =>
    let between := (({ (e.tellTruncation reported).now.2 with registry }.tell
      (finishedEvent finished.task)).recordTransition finished).mapMetrics
        (·.countFinished finished.task.status finished.task.durationMillis)
    have settles := between.setup_settleQueue finished.task (e.tellTruncation reported).now.1
    have same : between.setup = (e.tellTruncation reported).now.2.setup := by
      simp only [between, setup_mapMetrics, setup_recordTransition, setup_tell, setup_withRegistry]
    split
    · next settled r result =>
      rw [show between.settleQueue finished.task _ = (settled, .error r) from result] at settles
      exact .of_setup (settles.trans same)
    · next settled result =>
      rw [show between.settleQueue finished.task _ = (settled, .ok ()) from result] at settles
      exact .of_setup (settles.trans same)

/-- A retry reads the clock before anything else. -/
theorem retry_advances (e : Engine) (id : EntryId) (c : RetryCommand) :
    e.now.2.Advances (e.retry id c).1 := by
  have claims := e.now.2.setup_claim id c e.now.1
  unfold Engine.retry
  dsimp only
  split
  · next after r result =>
    rw [result] at claims
    exact .of_setup claims
  · next holding taken result =>
    rw [result] at claims
    have creates := holding.setup_create
      ⟨taken.entry.scope, c.actor, c.note, holding.link none, some id⟩ e.now.1
    split
    · next between r refused =>
      rw [refused] at creates
      exact .of_setup ((between.setup_release taken _).trans (creates.trans claims))
    · next between created accepted =>
      rw [accepted] at creates
      let counted := (between.recordTransition created).mapMetrics fun m =>
        (m.increment (Metrics.submittedSeries true)).increment (Metrics.retriesSeries taken.entry.mode)
      let ready := counted.attach id created.task.id
      have same : ready.setup = e.now.2.setup := by
        simp only [ready, counted, setup_attach, setup_mapMetrics, setup_recordTransition]
        exact creates.trans claims
      have dispatches : e.now.2.Advances (ready.dispatch created.task taken.entry.attempts).1 :=
        (Advances.of_setup same).trans (ready.dispatch_advances ..)
      split
      · next after r failed =>
        rw [show ready.dispatch created.task taken.entry.attempts = (after, .error r) from failed] at dispatches
        exact dispatches
      · next after running started =>
        rw [show ready.dispatch created.task taken.entry.attempts = (after, .ok running) from started]
          at dispatches
        exact dispatches.trans (.of_setup (setup_tell ..))

theorem remove_advances (e : Engine) (id : EntryId) (actor : Option String) :
    e.Advances (e.remove id actor).1 := by
  refine (Advances.now e).trans ?_
  unfold Engine.remove
  dsimp only
  split
  · exact .of_setup (setup_countRefusal ..)
  · exact .of_setup (by simp)

theorem setRetryMode_advances (e : Engine) (id : EntryId) (mode : RetryMode) (actor : String) :
    e.Advances (e.setRetryMode id mode actor).1 := by
  refine (Advances.now e).trans ?_
  unfold Engine.setRetryMode
  dsimp only
  split
  · exact .of_setup (setup_countRefusal ..)
  · exact .of_setup (by simp; rfl)

/-! ### Scheduling -/

theorem timeOut_advances (e : Engine) (id : TaskId) : e.Advances (e.timeOut id).1 := by
  have reports := e.recordOutcome_advances id .timeout
  unfold timeOut
  split <;> next result =>
    rw [result] at reports
    exact reports.trans (.of_setup rfl)

theorem timeOutAll_advances (e : Engine) (ids : List TaskId) : e.Advances (e.timeOutAll ids).1 := by
  induction ids generalizing e with
  | nil => exact .refl e
  | cons id rest ih => exact (e.timeOut_advances id).trans (ih (e.timeOut id).1)

theorem runWatchdog_advances (e : Engine) : e.Advances e.runWatchdog.1 :=
  (Advances.now e).trans (e.now.2.timeOutAll_advances _)

theorem retryOne_advances (e : Engine) (id : EntryId) : e.now.2.Advances (e.retryOne id).1 := by
  have retries := e.retry_advances id ⟨schedulerActor, none, false⟩
  unfold retryOne
  split <;> next result =>
    rw [result] at retries
    exact retries.trans (.of_setup rfl)

theorem retryAll_advances (e : Engine) (ids : List EntryId) : e.Advances (e.retryAll ids).1 := by
  induction ids generalizing e with
  | nil => exact .refl e
  | cons id rest ih =>
    exact (Advances.now e).trans ((e.retryOne_advances id).trans (ih (e.retryOne id).1))

theorem cleared_advances (e : Engine) : e.Advances e.cleared := (Advances.now e).trans (.of_setup rfl)

theorem tick_advances (e : Engine) : e.Advances e.tick.1 :=
  (e.cleared_advances.trans e.cleared.runWatchdog_advances).trans
    ((Advances.now e.swept).trans ((e.swept.now.2.retryAll_advances e.due).trans (.of_setup rfl)))

/-- No call changes what an engine was set up with, whether it succeeds or is refused. -/
theorem perform_advances (e : Engine) (c : Call) : e.Advances (e.perform c) := by
  cases c with
  | submit c => exact e.submit_advances c
  | retry id c => exact (Advances.now e).trans (e.retry_advances id c)
  | recordOutcome id reported => exact e.recordOutcome_advances id reported
  | remove id actor => exact e.remove_advances id actor
  | setRetryMode id mode actor => exact e.setRetryMode_advances id mode actor
  | runWatchdog => exact e.runWatchdog_advances
  | tick => exact e.tick_advances

end Reindexing.Engine
