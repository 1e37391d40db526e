import Reindexing.Proofs.Engine.Refusals
import Reindexing.Proofs.Engine.Reports
import Reindexing.Proofs.Registry.Courses

/-!
# Outcomes of tasks

Outcomes reach the registry through one desk of the engine, with the time of its
clock and with the samples that its cap leaves. `Proceeds` says that calls of the
engine are runs of accepted calls of the registry; what the runs record is what
runner and watchdog reported with success. So every task is well-formed in every
run, and a finished one has what was reported last and alone about it.
-/
namespace Reindexing

/-- A reading of a clock. -/
def IsReading (clock : Nat → Instant) (t : Instant) : Prop := ∃ n, clock n = t

/-- The registry of an engine, with the clock and the cap on samples that its calls are made with. -/
structure Desk where
  registry : Registry
  clock : Nat → Instant
  sampleCap : Nat

/-- An outcome as it is recorded, with the task it is about. -/
def Outcome.taken (cap : Nat) (reported : TaskId × Outcome) : TaskId × Outcome :=
  (reported.1, reported.2.track cap)

/-- Accepted calls at a desk, with the outcomes that were reported. -/
structure Desk.Proceeds (d : Desk) (told : List (TaskId × Outcome)) (after : Desk) : Prop where
  registry : d.registry.Proceeds (IsReading d.clock) (told.map (Outcome.taken d.sampleCap)) after.registry
  clock : after.clock = d.clock
  sampleCap : after.sampleCap = d.sampleCap

namespace Desk.Proceeds

variable {d between after : Desk} {first second told : List (TaskId × Outcome)}

theorem refl (d : Desk) : d.Proceeds [] d := ⟨.refl d.registry, rfl, rfl⟩

theorem trans (left : d.Proceeds first between) (right : between.Proceeds second after) :
    d.Proceeds (first ++ second) after := by
  have later := right.registry
  rw [left.clock, left.sampleCap] at later
  refine ⟨?_, right.clock.trans left.clock, right.sampleCap.trans left.sampleCap⟩
  rw [List.map_append]
  exact left.registry.trans later

theorem call {c : Registry.Call} {registry : Registry} {tr : Transition}
    (reading : IsReading d.clock c.time) (success : d.registry.answer c = .ok (registry, tr))
    (recorded : c.told = told.map (Outcome.taken d.sampleCap)) : d.Proceeds told { d with registry } :=
  ⟨recorded ▸ .call c reading success, rfl, rfl⟩

end Desk.Proceeds

namespace Engine

variable {e : Engine}

def desk (e : Engine) : Desk := ⟨e.registry, e.supply.clock, e.sampleCap⟩

theorem isReading_now (e : Engine) : IsReading e.desk.clock e.now.1 := ⟨e.supply.readings, rfl⟩

/-! ### What leaves the desk alone -/

section frame
variable (e : Engine)

@[simp] theorem desk_now : e.now.2.desk = e.desk := rfl
@[simp] theorem desk_tell (event : LogEvent) : (e.tell event).desk = e.desk := rfl
@[simp] theorem desk_mapMetrics (f : Metrics → Metrics) : (e.mapMetrics f).desk = e.desk := rfl
@[simp] theorem desk_countRefusal (r : Refusal) : (e.countRefusal r).desk = e.desk := rfl
@[simp] theorem desk_takeDraw : e.takeDraw.desk = e.desk := rfl
@[simp] theorem desk_takeTaskId : e.takeTaskId.desk = e.desk := rfl
@[simp] theorem desk_takeEntryId : e.takeEntryId.desk = e.desk := rfl
@[simp] theorem desk_showQueueDepth : e.showQueueDepth.desk = e.desk := rfl
@[simp] theorem desk_showRunning : e.showRunning.desk = e.desk := rfl
@[simp] theorem desk_withQueue (queue : Queue) : { e with queue }.desk = e.desk := rfl
@[simp] theorem desk_withRegistry (registry : Registry) :
    { e with registry }.desk = { e.desk with registry } := rfl
@[simp] theorem desk_withDispatched (dispatched : List Run) : { e with dispatched }.desk = e.desk := rfl

@[simp] theorem desk_record (record : AuditRecord) : (e.record record).desk = e.desk :=
  apply_record desk (fun _ _ _ _ _ => rfl) e record

@[simp] theorem desk_recordTransition (t : Transition) : (e.recordTransition t).desk = e.desk :=
  e.desk_record _

@[simp] theorem desk_recordMutation (m : Mutation) : (e.recordMutation m).desk = e.desk := e.desk_record _

@[simp] theorem desk_recordMutations (ms : List Mutation) : (ms.foldl recordMutation e).desk = e.desk :=
  apply_recordMutations desk (fun _ _ _ _ _ => rfl) ms e

@[simp] theorem desk_openSpan (span : LogSpan) : (e.openSpan span).2.desk = e.desk :=
  apply_openSpan desk (fun _ _ => rfl) e span

@[simp] theorem desk_tellTruncation (o : Outcome) : (e.tellTruncation o).desk = e.desk :=
  apply_tellTruncation desk (fun _ _ => rfl) e o

theorem desk_enqueue (failed : Task) (now : Instant) : (e.enqueue failed now).1.desk = e.desk := by
  unfold Engine.enqueue
  split
  · rfl
  · split <;> rfl

theorem desk_routeFailure (failed : Task) (now : Instant) : (e.routeFailure failed now).1.desk = e.desk := by
  unfold routeFailure
  split
  · exact e.desk_enqueue failed now
  · split
    · rfl
    · exact desk_enqueue _ failed now

theorem desk_resolveRetry (done : Task) (now : Instant) : (e.resolveRetry done now).desk = e.desk := by
  unfold resolveRetry
  split
  · rfl
  · split
    · exact desk_recordMutation _ _
    · rfl

theorem desk_settleQueue (done : Task) (now : Instant) : (e.settleQueue done now).1.desk = e.desk := by
  have routed := e.desk_routeFailure done now
  unfold settleQueue
  split
  · split
    · next after r result => rwa [result] at routed
    · next after m result =>
      rw [result] at routed
      exact (after.desk_recordMutation m).trans routed
  · exact e.desk_resolveRetry done now

theorem desk_claim (id : EntryId) (c : RetryCommand) (now : Instant) :
    (e.claim id c now).1.desk = e.desk := by
  unfold Engine.claim
  split
  · rfl
  · exact desk_recordMutations _ _

theorem desk_release (taken : Claim) (now : Instant) : (e.release taken now).desk = e.desk := by
  unfold Engine.release
  split
  · exact desk_recordMutation _ _
  · rfl

theorem desk_attach (id : EntryId) (task : TaskId) : (e.attach id task).desk = e.desk := by
  unfold Engine.attach
  split <;> rfl

end frame

/-! ### Calls at the desk -/

theorem create_proceeds (s : Submission) {now : Instant} (reading : IsReading e.desk.clock now) :
    e.desk.Proceeds [] (e.create s now).1.desk := by
  cases result : e.registry.submit e.nextTaskId s now with
  | error r =>
    simp only [create, result, desk_countRefusal]
    exact .refl e.desk
  | ok value =>
    simp only [create, result, desk_tell, desk_takeTaskId, desk_withRegistry]
    exact .call (c := .submit e.nextTaskId s now) reading result rfl

theorem dispatch_proceeds (e : Engine) (t : Task) (attempt : Nat) :
    e.desk.Proceeds [] (e.dispatch t attempt).1.desk := by
  cases result : e.registry.markRunning t.id t.trace e.now.1 with
  | error r =>
    simp only [dispatch, registry_now, result, desk_countRefusal, desk_now]
    exact .refl e.desk
  | ok value =>
    simp only [dispatch, registry_now, result, desk_withDispatched, desk_openSpan, desk_showRunning,
      desk_recordTransition, desk_withRegistry, desk_now]
    exact .call (c := .markRunning t.id t.trace e.now.1) e.isReading_now result rfl

theorem submit_proceeds (e : Engine) (c : SubmitCommand) : e.desk.Proceeds [] (e.submit c).1.desk := by
  have creates := e.now.2.create_proceeds ⟨c.scope, c.actor, c.note, e.link c.traceId, none⟩ e.isReading_now
  rw [desk_now] at creates
  unfold submit
  dsimp only
  split
  · next after r result => rwa [result] at creates
  · next after created result =>
    rw [result] at creates
    have dispatches := dispatch_proceeds ((after.recordTransition created).mapMetrics
      (·.increment (Metrics.submittedSeries false))) created.task 0
    rw [desk_mapMetrics, desk_recordTransition] at dispatches
    exact creates.trans dispatches

theorem retry_proceeds (e : Engine) (id : EntryId) (c : RetryCommand) :
    e.desk.Proceeds [] (e.retry id c).1.desk := by
  have claims := e.now.2.desk_claim id c e.now.1
  rw [desk_now] at claims
  unfold Engine.retry
  dsimp only
  split
  · next after r result =>
    rw [result] at claims
    rw [show after.desk = e.desk from claims]
    exact .refl e.desk
  · next holding taken result =>
    rw [result] at claims
    have creates := holding.create_proceeds
      ⟨taken.entry.scope, c.actor, c.note, holding.link none, some id⟩ (claims ▸ e.isReading_now)
    rw [show holding.desk = e.desk from claims] at creates
    split
    · next between r refused =>
      rw [refused] at creates
      rw [desk_release]
      exact creates
    · next between created accepted =>
      rw [accepted] at creates
      let counted := (between.recordTransition created).mapMetrics fun m =>
        (m.increment (Metrics.submittedSeries true)).increment (Metrics.retriesSeries taken.entry.mode)
      have dispatches := (counted.attach id created.task.id).dispatch_proceeds created.task taken.entry.attempts
      rw [desk_attach, desk_mapMetrics, desk_recordTransition] at dispatches
      split
      · next after r failed =>
        rw [failed] at dispatches
        exact creates.trans dispatches
      · next after running succeeded =>
        rw [succeeded] at dispatches
        exact creates.trans dispatches

/-! ### Reports -/

/-- The outcomes whose reports succeed in a call, in the order of the reports. -/
def accepted (e : Engine) : Call → List (TaskId × Outcome)
  | .submit _ | .retry .. | .remove .. | .setRetryMode .. => []
  | .recordOutcome id reported => if (e.recordOutcome id reported).2.isOk then [(id, reported)] else []
  | .runWatchdog => e.runWatchdog.2.map (·, .timeout)
  | .tick => e.tick.2.timedOut.map (·, .timeout)

theorem map_fst_accepted (e : Engine) (c : Call) : (e.accepted c).map Prod.fst = e.reports c := by
  cases c with
  | recordOutcome id reported =>
    simp only [accepted, reports]
    split <;> rfl
  | runWatchdog | tick => simp [accepted, reports, Function.comp_def]
  | submit | retry | remove | setRetryMode => rfl

/-- A report that succeeds records its outcome at the desk, one that is refused records nothing. -/
theorem recordOutcome_proceeds (coherent : Coherent e.stores.view []) (id : TaskId) (reported : Outcome)
    (distinct : (e.recordOutcome id reported).1.stores.Distinct) :
    e.desk.Proceeds (if (e.recordOutcome id reported).2.isOk then [(id, reported)] else [])
      (e.recordOutcome id reported).1.desk := by
  rcases e.recordOutcome_cases id reported with ⟨r, refused⟩ | ⟨registry, finished, accepted, settles⟩
  · rw [refused, desk_countRefusal, desk_now, desk_tellTruncation]
    exact .refl e.desk
  · obtain ⟨after, success⟩ := settles.accepted coherent distinct
    have between : (e.settling reported registry finished).desk = { e.desk with registry } := by
      simp only [settling, desk_mapMetrics, desk_recordTransition, desk_tell, desk_withRegistry, desk_now,
        desk_tellTruncation]
    have settled := (e.settling reported registry finished).desk_settleQueue finished.task e.now.1
    cases result : (e.settling reported registry finished).settleQueue finished.task e.now.1 with
    | mk last answer =>
      rw [result, between] at settled
      cases answer with
      | error r =>
        rw [settles.refuses last r result] at success
        cases success
      | ok =>
        rw [settles.accepts last result]
        have desk : ((last.showQueueDepth).showRunning).desk = { e.desk with registry } := settled
        rw [desk]
        exact .call (c := .recordOutcome id (reported.track e.sampleCap) none _ e.now.1) e.isReading_now
          accepted rfl

theorem desk_timeOut (e : Engine) (id : TaskId) :
    (e.timeOut id).1.desk = (e.recordOutcome id .timeout).1.desk := by
  unfold timeOut
  split <;> simp [*]

theorem timeOutAll_proceeds (coherent : Coherent e.stores.view []) (ids : List TaskId)
    (distinct : (e.timeOutAll ids).1.stores.Distinct) :
    e.desk.Proceeds ((e.timeOutAll ids).2.map (·, .timeout)) (e.timeOutAll ids).1.desk := by
  induction ids generalizing e with
  | nil => exact .refl e.desk
  | cons id rest ih =>
    have distinct_first : (e.timeOut id).1.stores.Distinct :=
      ((e.timeOut id).1.timeOutAll_completes rest).distinct_before distinct
    have coherent_first : Coherent (e.timeOut id).1.stores.view [] :=
      (e.timeOut_completes id).coherent (coherent.open_section rfl) distinct_first
    have head := recordOutcome_proceeds coherent id .timeout (e.stores_timeOut id ▸ distinct_first)
    rw [← isOk_timeOut, ← desk_timeOut] at head
    have both := head.trans (ih coherent_first distinct)
    rcases result : (e.timeOut id).2 with _ | _ <;> simpa [timeOutAll, result] using both

theorem runWatchdog_proceeds (coherent : Coherent e.stores.view [])
    (distinct : e.runWatchdog.1.stores.Distinct) :
    e.desk.Proceeds (e.runWatchdog.2.map (·, .timeout)) e.runWatchdog.1.desk :=
  timeOutAll_proceeds (e := e.now.2) coherent _ distinct

theorem retryAll_proceeds (e : Engine) (ids : List EntryId) :
    e.desk.Proceeds [] (e.retryAll ids).1.desk := by
  induction ids generalizing e with
  | nil => exact .refl e.desk
  | cons id rest ih =>
    have desk : (e.retryOne id).1.desk = (e.retry id ⟨schedulerActor, none, false⟩).1.desk := by
      unfold retryOne
      split <;> simp [*]
    have head := e.retry_proceeds id ⟨schedulerActor, none, false⟩
    rw [← desk] at head
    exact head.trans (ih (e.retryOne id).1)

theorem tick_proceeds (coherent : Coherent e.stores.view []) (distinct : e.tick.1.stores.Distinct) :
    e.desk.Proceeds (e.tick.2.timedOut.map (·, .timeout)) e.tick.1.desk := by
  have clears : Completes e.stores [.clearCooldowns] e.cleared.stores :=
    .step (e.inputs e.now.1 none) (.done _)
  have distinct_swept := distinct_swept distinct
  have distinct_cleared := e.swept_completes.distinct_before distinct_swept
  have coherent_cleared := clears.coherent (coherent.open_section rfl) distinct_cleared
  have sweeps := runWatchdog_proceeds coherent_cleared distinct_swept
  have both := sweeps.trans (e.swept.now.2.retryAll_proceeds e.due)
  rw [List.append_nil] at both
  exact both

theorem perform_proceeds (coherent : Coherent e.stores.view []) (c : Call)
    (distinct : (e.perform c).stores.Distinct) : e.desk.Proceeds (e.accepted c) (e.perform c).desk := by
  cases c with
  | submit c => exact e.submit_proceeds c
  | retry id c => exact e.retry_proceeds id c
  | recordOutcome id reported => exact recordOutcome_proceeds coherent id reported distinct
  | remove id actor =>
    have desk : (e.remove id actor).1.desk = e.desk := by
      unfold Engine.remove
      dsimp only
      split
      · rfl
      · exact desk_recordMutation _ _
    exact desk ▸ .refl e.desk
  | setRetryMode id mode actor =>
    have desk : (e.setRetryMode id mode actor).1.desk = e.desk := by
      unfold Engine.setRetryMode
      dsimp only
      split
      · rfl
      · exact desk_recordMutation _ _
    exact desk ▸ .refl e.desk
  | runWatchdog => exact runWatchdog_proceeds coherent distinct
  | tick => exact tick_proceeds coherent distinct

/-! ### Runs -/

/-- The engines that calls lead to from `start`, with the outcomes whose reports succeeded on the way. -/
inductive Concluded (start : Engine) : List (TaskId × Outcome) → Engine → Prop where
  | start : Concluded start [] start
  | aside {told : List (TaskId × Outcome)} {e after : Engine} : Concluded start told e → Aside e after →
      Concluded start told after
  | call {told : List (TaskId × Outcome)} {e : Engine} (c : Call) : Concluded start told e →
      (e.perform c).supply.Distinct → Concluded start (told ++ e.accepted c) (e.perform c)

/-- Every engine that occurs in a run has such outcomes. -/
theorem Reachable.concluded (h : e.Reachable) : ∃ config audit disk runner supply told,
    Concluded (.ofConfig config audit disk runner supply) told e := by
  induction h with
  | start config audit disk runner supply => exact ⟨config, audit, disk, runner, supply, [], .start⟩
  | aside _ beside ih =>
    obtain ⟨config, audit, disk, runner, supply, told, run⟩ := ih
    exact ⟨config, audit, disk, runner, supply, told, run.aside beside⟩
  | call c _ distinct ih =>
    obtain ⟨config, audit, disk, runner, supply, told, run⟩ := ih
    exact ⟨config, audit, disk, runner, supply, _, run.call c distinct⟩

namespace Concluded

variable {start : Engine} {told : List (TaskId × Outcome)}

theorem reported (run : Concluded start told e) : Reported start (told.map Prod.fst) e := by
  induction run with
  | start => exact .start
  | aside _ beside ih => exact ih.aside beside
  | @call told e c _ distinct ih =>
    rw [List.map_append, map_fst_accepted]
    exact ih.call c distinct

/-- To the registry a run is one of accepted calls, whatever the clock showed. -/
theorem proceeds (run : Concluded start told e) (reachable : start.Reachable) :
    start.registry.Proceeds (fun _ => True) (told.map (Outcome.taken start.sampleCap)) e.registry ∧
      e.sampleCap = start.sampleCap := by
  induction run with
  | start => exact ⟨.refl _, rfl⟩
  | @aside told e after _ beside ih =>
    rw [show after.registry = e.registry from congrArg Stores.registry beside.stores, beside.sampleCap]
    exact ih
  | @call told e c before distinct ih =>
    obtain ⟨registry, cap⟩ := ih
    have coherent := (before.reported.reachable reachable).coherent
    have call := perform_proceeds coherent c distinct
    refine ⟨?_, call.sampleCap.trans cap⟩
    have later := call.registry.mono fun _ _ => trivial
    rw [show e.desk.sampleCap = start.sampleCap from cap] at later
    rw [List.map_append]
    exact registry.trans later

end Concluded

/-- In every run, whatever its clock shows, the status of a task decides which of its fields are set, a
task that ended did not end before its start, and its duration is the time between both in whole
milliseconds. A finished task shows the one outcome that was reported for it: all counts, the first
samples up to the cap of the engine, or the error. -/
theorem tasks_are_well_formed_and_show_their_outcomes {config : Config} {audit : AuditLog} {disk : Disk}
    {runner : Runner} {supply : Supply} {told : List (TaskId × Outcome)}
    (run : Concluded (.ofConfig config audit disk runner supply) told e) :
    (told.map Prod.fst).Nodup ∧ ∀ t ∈ e.registry.tasks,
      t.WellFormed ∧
      (∀ s f millis, t.startedAt = some s → t.finishedAt = some f → t.durationMillis = some millis →
        s.nano < Instant.nanosPerSecond → f.nano < Instant.nanosPerSecond →
        0 ≤ millis ∧ millis * 1000000 ≤ f.sinceEpoch - s.sinceEpoch ∧
          f.sinceEpoch - s.sinceEpoch < (millis + 1) * 1000000) ∧
      (t.status.isTerminal = true → ∃ o, (t.id, o) ∈ told ∧ t.status = o.status ∧
        t.evidence = o.evidence?.map (fun shown => ⟨shown.created, shown.updated, shown.removed,
          shown.samples.take (min shown.samples.length config.evidence.sampleCap)⟩) ∧
        t.errorCode = o.errorCode? ∧ t.errorMessage = o.errorMessage?) := by
  have reachable : Engine.Reachable (.ofConfig config audit disk runner supply) := .start ..
  have proceeds := (run.proceeds reachable).1
  refine ⟨(run.reported.ends reachable).once, fun t member => ?_⟩
  have wellFormed := proceeds.wellFormed (List.forall_mem_nil _) t member
  refine ⟨wellFormed, ?_, fun terminal => ?_⟩
  · intro s f millis started finished lasted ordinary_s ordinary_f
    obtain ⟨le, duration⟩ := wellFormed.span s f started finished
    rw [lasted, Option.some.injEq, eq_comm, Instant.wholeMillis_sub_eq_iff le ordinary_s ordinary_f] at duration
    refine ⟨?_, duration⟩
    have forward := Instant.sinceEpoch_le le ordinary_s
    omega
  · rcases proceeds.shows_told (List.forall_mem_nil _) member terminal with none | ⟨o, recorded, shows_⟩
    · cases none
    · obtain ⟨⟨id, reported⟩, listed, same⟩ := List.mem_map.mp recorded
      obtain ⟨rfl, rfl⟩ := Prod.mk.inj same
      exact ⟨reported, listed, shows_.of_track⟩

/-- The clock goes back while a task runs whose report has one sample too many. -/
theorem partial_outcome_under_a_clock_that_goes_back :
    ∃ (e : Engine) (told : List (TaskId × Outcome)) (t : Task), t ∈ e.registry.tasks ∧
      told.map Prod.fst = [⟨.ofNat 0⟩] ∧ t.status = .partly ∧ t.startedAt = some ⟨9, 0⟩ ∧
      t.finishedAt = some ⟨9, 0⟩ ∧ t.durationMillis = some 0 ∧
      t.evidence.map (fun e => (e.created, e.samples.map (·.source))) = some (7, ["first"]) ∧ t.WellFormed ∧
      ∃ o, (t.id, o) ∈ told ∧ t.status = o.status := by
  let supply : Supply :=
    ⟨fun n => ⟨10 - n, 0⟩, fun n => ⟨.ofNat n⟩, fun n => ⟨.ofNat n⟩, fun _ => 0, 0, 0, 0, 0⟩
  let sample (source : String) : Sample := ⟨none, none, .created, source, none, none, none⟩
  let config : Config := { Config.default with evidence := ⟨1⟩ }
  let submitted := (Engine.ofConfig config (.inMemory 100) .empty .parked supply).perform
    (.submit ⟨.all, "ops", none, none⟩)
  let ended := submitted.perform (.recordOutcome ⟨.ofNat 0⟩ (.partly ⟨7, 0, 0, [sample "first", sample "second"]⟩))
  have run : Concluded (.ofConfig config (.inMemory 100) .empty .parked supply) _ ended :=
    (Concluded.start.call _ (by decide)).call _ (by decide +kernel)
  obtain ⟨t, member, status, started, finished, duration, evidence⟩ : ∃ t ∈ ended.registry.tasks,
      t.status = .partly ∧ t.startedAt = some ⟨9, 0⟩ ∧ t.finishedAt = some ⟨9, 0⟩ ∧ t.durationMillis = some 0 ∧
      t.evidence.map (fun e => (e.created, e.samples.map (·.source))) = some (7, ["first"]) := by
    decide +kernel
  obtain ⟨wellFormed, _, outcome⟩ := (tasks_are_well_formed_and_show_their_outcomes run).2 t member
  obtain ⟨o, recorded, same, _⟩ := outcome (by rw [status]; rfl)
  exact ⟨ended, _, t, member, by decide +kernel, status, started, finished, duration, evidence, wellFormed, o,
    recorded, same⟩

end Engine

end Reindexing
