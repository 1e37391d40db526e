import Reindexing.Proofs.Engine.Passages
import Reindexing.Proofs.Engine.Runs
import Reindexing.Proofs.Registry.Permanence

/-!
# Reports

Runner and watchdog report outcomes of the same tasks, and retries create tasks
for scopes that had one before. To the registry all of this is one run of its own
calls, so whatever stays in such a run stays while the engine runs. `Ends` counts
the reports that succeed: each of them ends a task that was not finished, and
finished tasks stay finished, so that no task can be among them twice.
-/
namespace Reindexing

variable {w after : Stores} {pending todo : List Section}

/-! ### Sections as calls of the registry -/

/-- What a section does to the registry is a call of the registry, or nothing. -/
theorem Section.run_leads (issued : Issued w.view pending) (s : Section) (x : Inputs)
    (distinct : (s.run x w).1.Distinct) : w.registry.Leads (s.run x w).1.registry := by
  -- A call that succeeds is a step of the registry when it brings a fresh identifier.
  have step : ∀ {c : Registry.Call} {registry : Registry} {tr : Transition},
      w.registry.answer c = .ok (registry, tr) → c.IsFresh w.registry → w.registry.Leads registry := by
    intro c registry tr success fresh
    have performed : (w.registry.perform c).1 = registry := by simp only [Registry.perform, success]
    exact performed ▸ Registry.Leads.call c .refl fresh
  have new_task : ∀ {submission : Submission} {registry : Registry} {tr : Transition},
      w.registry.submit x.taskId submission x.now = .ok (registry, tr) →
      (w.taskIds ++ [x.taskId]).Nodup → w.registry.Leads registry := by
    intro submission registry tr success nodup
    exact step (c := .submit x.taskId submission x.now) success (issued.fresh_task nodup)
  cases s with
  | create c | resubmit id c taken =>
    simp only [run] at distinct ⊢
    split
    · exact .refl
    · next registry tr success =>
      rw [success] at distinct
      exact new_task success distinct.1
  | start task =>
    simp only [run]
    split
    · exact .refl
    · next success => exact step (c := .markRunning task x.trace x.now) success trivial
  | report id outcome =>
    simp only [run]
    split
    · exact .refl
    · next success => exact step (c := .recordOutcome id outcome none x.trace x.now) success trivial
  | enqueue failed =>
    simp only [run]
    split <;> exact .refl
  | release | resolve | clearCooldowns | sweep | scan => exact .refl
  | claim | attach | recordRetryFailure | remove | setMode =>
    simp only [run]
    split <;> exact .refl

theorem Completes.leads (run : Completes w todo after) (before : Coherent w.view todo)
    (distinct : after.Distinct) : w.registry.Leads after.registry := by
  induction run with
  | done => exact .refl
  | @step w after s rest x tail ih =>
    have distinct_between := tail.distinct_before distinct
    exact (s.run_leads before.issued x distinct_between).trans
      (ih (Stores.coherent_run before x distinct_between) distinct)

/-- A report of a running task ends it, whatever is left to do afterwards. -/
theorem Completes.ends {id : TaskId} {o : Outcome} {rest : List Section}
    (run : Completes w (.report id o :: rest) after) (before : Coherent w.view (.report id o :: rest))
    (distinct : after.Distinct) (registry : w.registry.Documented) {t : Task}
    (found : w.registry.find? id = some t) (running : t.status = .running) :
    ∃ u ∈ after.registry.tasks, u.id = id ∧ u.status.isTerminal = true := by
  cases run with
  | step x tail =>
    have distinct_between := tail.distinct_before distinct
    have accepted : w.registry.recordOutcome id o none x.trace x.now = _ :=
      Registry.recordOutcome_of_running found running o none x.trace
    have ended : ((Section.report id o).run x w).1.registry =
        (w.registry.recorded (t.ended o x.now)
          (w.registry.history.nextEvent id o.status (t.endTime x.now) none x.trace)).1 := by
      simp only [Section.run, accepted]
    obtain ⟨member, rfl⟩ := Registry.mem_of_find? found
    have there : t.ended o x.now ∈ ((Section.report t.id o).run x w).1.registry.tasks := by
      rw [ended]
      exact Keyed.mem_replaceBy.mpr (.inl ⟨rfl, t, member, (Task.ended_id t o x.now).symm⟩)
    have terminal : (t.ended o x.now).status.isTerminal = true := by
      rw [Task.ended_status, o.status_terminal]
    have documented := (Section.run_leads before.issued _ x distinct_between).documented registry
    have later := (tail.leads (Stores.coherent_run before x distinct_between) distinct).extends documented
    exact ⟨_, (later.frozen _ there terminal).1, Task.ended_id t o x.now, terminal⟩

/-! ### Reports that succeed -/

/-- A run of the registry that ends these tasks, which were not finished before. -/
structure Registry.Ends (r : Registry) (ids : List TaskId) (after : Registry) : Prop where
  leads : r.Leads after
  once : ids.Nodup
  unfinished : ∀ id ∈ ids, ∀ t ∈ r.tasks, t.id = id → t.status.isTerminal = false
  finished : ∀ id ∈ ids, ∃ t ∈ after.tasks, t.id = id ∧ t.status.isTerminal = true

namespace Registry.Ends

variable {r after last : Registry} {ids more : List TaskId}

theorem of_leads (leads : r.Leads after) : r.Ends [] after :=
  ⟨leads, List.nodup_nil, List.forall_mem_nil _, List.forall_mem_nil _⟩

theorem trans (documented : r.Documented) (first : r.Ends ids after) (second : after.Ends more last) :
    r.Ends (ids ++ more) last where
  leads := first.leads.trans second.leads
  once := by
    refine List.nodup_append.mpr ⟨first.once, second.once, ?_⟩
    rintro id ended _ again rfl
    obtain ⟨t, member, same, terminal⟩ := first.finished id ended
    rw [second.unfinished id again t member same] at terminal
    cases terminal
  unfinished := by
    intro id member t task same
    by_contra terminal
    rw [Bool.not_eq_false] at terminal
    rcases List.mem_append.mp member with ended | again
    · rw [first.unfinished id ended t task same] at terminal
      cases terminal
    · have stays := ((first.leads.extends documented).frozen t task terminal).1
      rw [second.unfinished id again t stays same] at terminal
      cases terminal
  finished := by
    intro id member
    rcases List.mem_append.mp member with ended | again
    · obtain ⟨t, task, same, terminal⟩ := first.finished id ended
      have later := second.leads.extends (first.leads.documented documented)
      exact ⟨t, (later.frozen t task terminal).1, same, terminal⟩
    · exact second.finished id again

end Registry.Ends

namespace Engine

variable {e after : Engine}

/-- The tasks whose reports succeed in a call, in the order of the reports. -/
def reports (e : Engine) : Call → List TaskId
  | .submit _ | .retry .. | .remove .. | .setRetryMode .. => []
  | .recordOutcome id reported => if (e.recordOutcome id reported).2.isOk then [id] else []
  | .runWatchdog => e.runWatchdog.2
  | .tick => e.tick.2.timedOut

/-- The engines that calls lead to from `start`, with the reports that succeeded on the way. -/
inductive Reported (start : Engine) : List TaskId → Engine → Prop where
  | start : Reported start [] start
  | aside {ids : List TaskId} {e after : Engine} : Reported start ids e → Aside e after →
      Reported start ids after
  | call {ids : List TaskId} {e : Engine} (c : Call) : Reported start ids e →
      (e.perform c).supply.Distinct → Reported start (ids ++ e.reports c) (e.perform c)

theorem Reported.reachable {start : Engine} {ids : List TaskId} (run : Reported start ids e)
    (reachable : start.Reachable) : e.Reachable := by
  induction run with
  | start => exact reachable
  | aside _ beside ih => exact ih.aside beside
  | call c _ distinct ih => exact ih.call c distinct

/-- An engine of a run: its stores cohere, and its registry is one of a run of the registry. -/
structure Sound (e : Engine) : Prop where
  coherent : Coherent e.stores.view []
  documented : e.registry.Documented

theorem Sound.completes (before : e.Sound) {todo : List Section}
    (openings : ∀ s ∈ todo, s.isOpening = true) (run : Completes e.stores todo after.stores)
    (distinct : after.stores.Distinct) : after.Sound ∧ e.registry.Leads after.registry := by
  have opened := before.coherent.open_sections openings
  rw [List.append_nil] at opened
  have leads := run.leads opened distinct
  exact ⟨⟨run.coherent opened distinct, leads.documented before.documented⟩, leads⟩

theorem Reachable.sound (h : e.Reachable) : e.Sound := by
  induction h with
  | start config audit disk runner supply => exact ⟨Stores.coherent_empty .., Registry.documented_empty⟩
  | @aside e after _ beside ih =>
    have registry : after.registry = e.registry := congrArg Stores.registry beside.stores
    exact ⟨beside.stores ▸ ih.coherent, registry ▸ ih.documented⟩
  | @call e c _ distinct ih =>
    exact (ih.completes (c.sections_open e.timeout e.sampleCap) (e.perform_completes c) distinct).1

/-- A report that succeeds is about a running task. -/
theorem running_of_report {id : TaskId} {reported : Outcome}
    (success : (e.recordOutcome id reported).2.isOk = true) :
    ∃ t, e.registry.find? id = some t ∧ t.status = .running := by
  rcases e.recordOutcome_cases id reported with ⟨r, refused⟩ | ⟨_, _, accepted, _⟩
  · rw [refused] at success
    cases success
  · obtain ⟨t, found, running, _⟩ := Registry.recordOutcome_ok accepted
    exact ⟨t, found, running⟩

theorem recordOutcome_ends (before : e.Sound) (id : TaskId) (reported : Outcome)
    (distinct : (e.recordOutcome id reported).1.stores.Distinct) :
    e.registry.Ends (if (e.recordOutcome id reported).2.isOk then [id] else [])
      (e.recordOutcome id reported).1.registry := by
  have run := e.recordOutcome_completes id reported
  have openings : ∀ s ∈ [Section.report id (reported.track e.sampleCap)], s.isOpening = true := by
    simp [Section.isOpening]
  have leads := (before.completes openings run distinct).2
  split
  · next success =>
    obtain ⟨t, found, running⟩ := running_of_report success
    obtain ⟨member, owns⟩ := Registry.mem_of_find? found
    have opened := before.coherent.open_section (s := .report id (reported.track e.sampleCap)) rfl
    refine ⟨leads, List.nodup_singleton id, ?_, ?_⟩
    · rintro _ listed u task same
      obtain rfl := List.mem_singleton.mp listed
      have alone := Keyed.eq_of_key before.documented.unique task member (same.trans owns.symm)
      rw [alone, running]
      rfl
    · rintro _ listed
      obtain rfl := List.mem_singleton.mp listed
      exact run.ends opened distinct before.documented found running
  · exact .of_leads leads

/-- The flag of a task that runs too long tells whether the report of its failure succeeds. -/
theorem isOk_timeOut (e : Engine) (id : TaskId) :
    (e.timeOut id).2 = (e.recordOutcome id .timeout).2.isOk := by
  unfold timeOut
  split <;> simp [*, Except.isOk, Except.toBool]

theorem timeOutAll_ends (before : e.Sound) (ids : List TaskId)
    (distinct : (e.timeOutAll ids).1.stores.Distinct) :
    e.registry.Ends (e.timeOutAll ids).2 (e.timeOutAll ids).1.registry := by
  induction ids generalizing e with
  | nil => exact .of_leads .refl
  | cons id rest ih =>
    have stores := e.stores_timeOut id
    have distinct_between := ((e.timeOut id).1.timeOutAll_completes rest).distinct_before distinct
    have sound : (e.timeOut id).1.Sound :=
      (before.completes (by simp [Section.isOpening]) (e.timeOut_completes id) distinct_between).1
    have registry : (e.timeOut id).1.registry = (e.recordOutcome id .timeout).1.registry :=
      congrArg Stores.registry stores
    have head := e.recordOutcome_ends before id .timeout (stores ▸ distinct_between)
    rw [← e.isOk_timeOut id, ← registry] at head
    have both := head.trans before.documented (ih sound distinct)
    rcases result : (e.timeOut id).2 with _ | _ <;> simpa [timeOutAll, result] using both

theorem runWatchdog_ends (before : e.Sound) (distinct : e.runWatchdog.1.stores.Distinct) :
    e.registry.Ends e.runWatchdog.2 e.runWatchdog.1.registry :=
  timeOutAll_ends (e := e.now.2) ⟨before.coherent, before.documented⟩ _ distinct

theorem Sound.cleared (before : e.Sound) (distinct : e.cleared.stores.Distinct) : e.cleared.Sound := by
  have clears : Completes e.stores [.clearCooldowns] e.cleared.stores :=
    .step (e.inputs e.now.1 none) (.done _)
  exact (before.completes (by simp [Section.isOpening]) clears distinct).1

theorem Sound.swept (before : e.Sound) (distinct : e.swept.stores.Distinct) : e.swept.Sound :=
  ((before.cleared (e.swept_completes.distinct_before distinct)).completes (by simp [Section.isOpening])
    e.swept_completes distinct).1

theorem tick_ends (before : e.Sound) (distinct : e.tick.1.stores.Distinct) :
    e.registry.Ends e.tick.2.timedOut e.tick.1.registry := by
  have scans : Completes e.swept.stores [.scan] e.tick.1.stores := by
    have tail := e.swept.now.2.retryAll_completes e.due
    exact .of_run (x := e.swept.inputs e.swept.now.1 none) rfl (by rw [List.append_nil]; exact tail)
  have distinct_swept := distinct_swept distinct
  have sound_cleared := before.cleared (e.swept_completes.distinct_before distinct_swept)
  have retries := ((before.swept distinct_swept).completes (by simp [Section.isOpening]) scans distinct).2
  have both := (runWatchdog_ends sound_cleared distinct_swept).trans sound_cleared.documented (.of_leads retries)
  rw [List.append_nil] at both
  exact both

theorem perform_ends (before : e.Sound) (c : Call) (distinct : (e.perform c).supply.Distinct) :
    e.registry.Ends (e.reports c) (e.perform c).registry := by
  cases c with
  | recordOutcome id reported => exact recordOutcome_ends before id reported distinct
  | runWatchdog => exact runWatchdog_ends before distinct
  | tick => exact tick_ends before distinct
  | submit | retry | remove | setRetryMode =>
    exact .of_leads (before.completes (Call.sections_open _ e.timeout e.sampleCap)
      (e.perform_completes _) distinct).2

theorem Reported.ends {start : Engine} {ids : List TaskId} (run : Reported start ids e)
    (reachable : start.Reachable) : start.registry.Ends ids e.registry := by
  induction run with
  | start => exact .of_leads .refl
  | @aside ids e after _ beside ih =>
    rw [show after.registry = e.registry from congrArg Stores.registry beside.stores]
    exact ih
  | call c before distinct ih =>
    exact ih.trans reachable.sound.documented (perform_ends (before.reachable reachable).sound c distinct)

/-- A report about a finished task is refused. -/
theorem recordOutcome_of_finished {t : Task} (found : e.registry.find? t.id = some t)
    (terminal : t.status.isTerminal = true) (reported : Outcome) :
    (e.recordOutcome t.id reported).2 = .error (.outcomeRecorded t.id t.status) := by
  have refused : e.registry.recordOutcome t.id (reported.track e.sampleCap) none
      ((e.tellTruncation reported).now.2.link none) e.now.1 = .error (.outcomeRecorded t.id t.status) := by
    rw [Registry.recordOutcome_of_find? found, Task.finish_eq, if_pos terminal]
    rfl
  rw [recordOutcome_of_refusal refused]

/-- History is append-only and finished tasks are frozen, whatever calls follow. Of all reports about
a task at most one succeeds, and it finishes the task; from then on every report is refused. -/
theorem history_grows_and_finished_tasks_are_frozen {start : Engine} {ids : List TaskId}
    (reachable : start.Reachable) (run : Reported start ids e) :
    start.registry.history.events <+: e.registry.history.events ∧
    (∀ t ∈ start.registry.tasks, ∃ u ∈ e.registry.tasks, u.id = t.id) ∧
    (∀ t ∈ start.registry.tasks, t.status.isTerminal = true →
      e.registry.find? t.id = some t ∧
      e.registry.history.timeline t.id = start.registry.history.timeline t.id ∧
      (e.taskHistory t.id).2 = (start.taskHistory t.id).2 ∧ t.id ∉ ids) ∧
    ids.Nodup ∧
    (∀ id ∈ ids, ∃ t ∈ e.registry.tasks, t.id = id ∧ t.status.isTerminal = true) ∧
    (∀ t ∈ e.registry.tasks, t.status.isTerminal = true → ∀ reported,
      (e.recordOutcome t.id reported).2 = .error (.outcomeRecorded t.id t.status)) := by
  have documented := reachable.sound.documented
  have ends := run.ends reachable
  have documented_after := ends.leads.documented documented
  have grows := ends.leads.extends documented
  refine ⟨grows.events, ?_, ?_, ends.once, ends.finished, ?_⟩
  · intro t member
    exact List.mem_map.mp (grows.tasks.subset (List.mem_map_of_mem member))
  · intro t member terminal
    obtain ⟨stays, same⟩ := grows.frozen t member terminal
    refine ⟨Registry.find?_of_mem documented_after.unique stays, ?_, ?_, ?_⟩
    · obtain ⟨group, shown, _, events, _⟩ := documented.taskHistory member
      obtain ⟨later, shown_later, _, events_later, _⟩ := documented_after.taskHistory stays
      obtain rfl := Except.ok.inj (shown_later.symm.trans (same.trans shown))
      rw [← events_later, events]
    · simp only [Engine.taskHistory, answer, same]
      split <;> rfl
    · intro listed
      rw [ends.unfinished t.id listed t member rfl] at terminal
      cases terminal
  · intro t member terminal reported
    exact recordOutcome_of_finished (Registry.find?_of_mem documented_after.unique member) terminal reported

/-- The watchdog fails a task before its runner reports success; the retry of the task succeeds. -/
theorem late_report_of_a_timed_out_task :
    ∃ (start e : Engine) (ids : List TaskId), start.Reachable ∧ Reported start ids e ∧
      start.registry.tasks.map (·.status) = [.failed] ∧
      e.registry.tasks.map (·.status) = [.failed, .completed] ∧ ids = [⟨.ofNat 1⟩] ∧ ids.Nodup ∧
      (∀ t ∈ start.registry.tasks, e.registry.find? t.id = some t) ∧
      (e.recordOutcome ⟨.ofNat 0⟩ (.success .none)).2 = .error (.outcomeRecorded ⟨.ofNat 0⟩ .failed) := by
  let supply : Supply :=
    ⟨fun n => ⟨10000 * n, 0⟩, fun n => ⟨.ofNat n⟩, fun n => ⟨.ofNat n⟩, fun _ => 0, 0, 0, 0, 0⟩
  let submitted := (Engine.ofConfig .default (.inMemory 100) .empty .parked supply).perform
    (.submit ⟨.all, "ops", none, none⟩)
  let failed := submitted.perform .runWatchdog
  let reported := failed.perform (.recordOutcome ⟨.ofNat 0⟩ (.success .none))
  let retried := reported.perform (.retry ⟨.ofNat 0⟩ ⟨"ops", none, true⟩)
  let completed := retried.perform (.recordOutcome ⟨.ofNat 1⟩ (.success .none))
  have reachable : failed.Reachable := ((Reachable.start ..).call _ (by decide)).call _ (by decide)
  have run : Reported failed _ completed :=
    ((Reported.start.call _ (by decide +kernel)).call _ (by decide +kernel)).call _ (by decide +kernel)
  obtain ⟨_, _, frozen, once, _, refused⟩ := history_grows_and_finished_tasks_are_frozen reachable run
  have terminal : ∀ t ∈ failed.registry.tasks, t.status.isTerminal = true := by decide +kernel
  obtain ⟨t, member, id, status⟩ : ∃ t ∈ completed.registry.tasks, t.id = ⟨.ofNat 0⟩ ∧ t.status = .failed := by
    decide +kernel
  have late := refused t member (by rw [status]; rfl) (.success .none)
  rw [id, status] at late
  exact ⟨failed, completed, _, reachable, run, by decide +kernel, by decide +kernel, by decide +kernel, once,
    fun t member => (frozen t member (terminal t member)).1, late⟩

end Engine

end Reindexing
