import Reindexing.Proofs.Engine.Outcomes
import Reindexing.Proofs.Engine.Refusals
import Reindexing.Proofs.Queue.Identity

/-!
# The watchdog

A pass of the watchdog fails the tasks that run for the timeout or longer, and
nothing else: it looks for them once and then reports them one after the other.
A report changes its task, and in the queue the one entry under the label of its
scope. `Sweeps` says what a pass leaves behind that failed a list of tasks; one
report has it of one task, and a pass has it of all tasks in its list, since no
report stops another task of the list from running.

A report gives a cooldown to its entry, and one that cannot be formed ends the program
in the middle of the pass. `SweepFits` says that none of a list of reports does.
-/
namespace Reindexing

/-- The task runs, and has done so for the timeout or longer. -/
def Task.IsOverdue (timeout : Span) (now : Instant) (t : Task) : Prop :=
  t.status = .running ∧ ∃ delta ∈ timeout.toDelta?, ∃ started ∈ t.startedAt, delta ≤ now - started

instance (timeout : Span) (now : Instant) (t : Task) : Decidable (t.IsOverdue timeout now) :=
  inferInstanceAs (Decidable (_ ∧ ∃ delta ∈ timeout.toDelta?, ∃ started ∈ t.startedAt, delta ≤ now - started))

namespace Registry

variable {r : Registry} {timeout : Span} {now : Instant}

def overdue (r : Registry) (timeout : Span) (now : Instant) : List Task :=
  r.tasks.filter fun t => decide (t.IsOverdue timeout now)

theorem mem_overdue {t : Task} : t ∈ r.overdue timeout now ↔ t ∈ r.tasks ∧ t.IsOverdue timeout now := by
  simp [overdue]

theorem timedOut_eq : r.timedOut timeout now = (r.overdue timeout now).map (·.id) := by
  cases limit : timeout.toDelta? with
  | none => simp [timedOut, overdue, Task.IsOverdue, limit]
  | some delta =>
    simp only [timedOut, overdue, limit]
    congr 2
    funext t
    cases started : t.startedAt <;> simp [Task.IsOverdue, limit, started]

/-- No task is overdue if the timeout is too long for a difference of instants. -/
theorem overdue_of_unlimited (unlimited : timeout.toDelta? = none) : r.overdue timeout now = [] := by
  simp [overdue, Task.IsOverdue, unlimited]

theorem nodup_overdue (unique : (r.tasks.map (·.id)).Nodup) : ((r.overdue timeout now).map (·.id)).Nodup :=
  unique.sublist (List.filter_sublist.map _)

end Registry

/-! ### What a failure leaves alone -/

section
variable {q : Queue} {b after : Books} {now time : Instant} {e next m s : QueueEntry} {notes : List Note}
  {id : EntryId}

theorem Alters.scope (alters : Alters q now e notes next) : next.scope = e.scope := by
  cases alters with
  | failed | retryFailed | modeSet => rfl
  | cooldownEnded => exact e.scope_clearElapsed now
  | rolledBack => exact e.scope_clearElapsed now
  | retried task takes => exact congrArg Standing.scope takes.standing

/-- When a failure is noted for an entry, the entries with other labels stay as they are. -/
theorem Change.other_labels (change : Change now b [.failure id time] after) (sound : b.Sound)
    (noted : m ∈ after.queue.entries) (same : m.id = id) (other : s.scope.label ≠ m.scope.label) :
    s ∈ after.queue.entries ↔ s ∈ b.queue.entries := by
  generalize taken : [Note.failure id time] = notes at change
  cases change with
  | @altered _ old next _ known alters =>
    have named : id = old.id :=
      alters.entry_of_mem (n := .failure id time) (taken ▸ List.mem_singleton_self _)
    have next_id : next.id = id := alters.keeps.1.trans named.symm
    have there : next = m := by
      rcases Keyed.mem_replaceBy.mp noted with ⟨rfl, _⟩ | ⟨_, apart⟩
      · rfl
      · exact absurd (same.trans next_id.symm) apart
    subst there
    refine Keyed.mem_replaceBy.trans ⟨?_, fun member => .inr ⟨member, fun clash => ?_⟩⟩
    · rintro (⟨rfl, _⟩ | ⟨member, _⟩)
      · exact absurd rfl other
      · exact member
    · obtain rfl := Keyed.eq_of_key sound.unique_ids member known (clash.trans alters.keeps.1)
      exact other (congrArg Scope.label alters.scope.symm)
  | added _ failed mode draw fresh =>
    have there : m = b.queue.newEntry id failed mode now draw := by
      cases taken
      rcases List.mem_append.mp noted with old | new
      · exact absurd (same ▸ sound.issued m.standing (List.mem_map_of_mem old)) fresh
      · exact List.mem_singleton.mp new
    subst there
    cases taken
    refine List.mem_append.trans ⟨?_, .inl⟩
    rintro (member | new)
    · exact member
    · exact absurd (congrArg (fun n : QueueEntry => n.scope.label) (List.mem_singleton.mp new)) other
  | cleared => cases taken
  | dropped => cases taken

end

namespace Engine

variable {e after : Engine} {t : Task} {code : String} {message : Option String}

/-- The report of a failure changes its task and no other one. -/
theorem registry_of_failure (before : e.Sound) (task : t ∈ e.registry.tasks) (running : t.status = .running)
    (code : String) (message : Option String) :
    ∃ event, (e.recordOutcome t.id (.failure code message)).1.registry =
      (e.registry.recorded (t.ended (.failure code message) e.now.1) event).1 := by
  let event := e.registry.history.nextEvent t.id .failed (t.endTime e.now.1) none (e.link none)
  have found := Registry.find?_of_mem before.documented.unique task
  have accepted : e.registry.recordOutcome t.id (.failure code message) none (e.link none) e.now.1 =
      .ok (e.registry.recorded (t.ended (.failure code message) e.now.1) event) :=
    Registry.recordOutcome_of_running found running _ none _
  have stores := stores_recordOutcome_of_failure (Task.ended_status ..) accepted
  refine ⟨event, (congrArg Stores.registry stores).trans ?_⟩
  refine (congrArg Desk.registry (desk_routeFailure ..)).trans ?_
  exact congrArg Stores.registry (stores_ending ..)

/-- A report that fails its task changes the entry under the label of the task, and no other one. -/
theorem Settles.other_labels {id : TaskId} {reported : Outcome} {finished : Task} {between : Engine}
    (settles : Settles e id reported finished between) (before : Coherent e.stores.view [])
    (failed : finished.status = .failed) (distinct : (e.recordOutcome id reported).1.stores.Distinct)
    {q : QueueEntry} (other : finished.scope.label ≠ q.scope.label) :
    q ∈ (e.recordOutcome id reported).1.queue.entries ↔ q ∈ e.queue.entries := by
  have after := (e.recordOutcome_completes id reported).coherent (before.open_section rfl) distinct
  obtain ⟨routed, m, route, distinct_routed, located, result⟩ := settles.routes before failed distinct
  obtain ⟨b, change, moved⟩ := routeFailure_change route distinct_routed
  have queue : (e.recordOutcome id reported).1.queue = routed.queue := by
    rw [result]
    exact routed.queue_record _
  have changed : routed.queue = b.queue := congrArg (fun m : Moment => m.queue) moved
  have found : (e.recordOutcome id reported).1.queue.findByScope finished.scope = some m.entry := by
    rw [queue]
    exact located
  obtain ⟨member, label⟩ := ((sound_books after).findByScope_iff _ _).mp found
  rw [settles.books] at change
  rw [queue_books, queue, changed] at member
  rw [queue, changed]
  exact change.other_labels (sound_books before) member rfl (label ▸ other.symm)

/-! ### Passes of the watchdog -/

/-- The cooldowns of these failures can be formed, each when its turn has come. -/
inductive SweepFits : Engine → List Task → Prop where
  | done (e : Engine) : SweepFits e []
  | next {e : Engine} {t : Task} {rest : List Task} :
      e.CooldownFits t → SweepFits (e.timeOut t.id).1 rest → SweepFits e (t :: rest)

theorem sweepFits_cons {rest : List Task} :
    SweepFits e (t :: rest) ↔ e.CooldownFits t ∧ SweepFits (e.timeOut t.id).1 rest :=
  ⟨fun | .next fits more => ⟨fits, more⟩, fun both => .next both.1 both.2⟩

instance instDecidableSweepFits : (e : Engine) → (stuck : List Task) → Decidable (SweepFits e stuck)
  | e, [] => isTrue (.done e)
  | e, t :: rest =>
    have := instDecidableSweepFits (e.timeOut t.id).1 rest
    decidable_of_iff _ sweepFits_cons.symm

/-- Where every cooldown can be formed, the watchdog never ends the program. -/
theorem sweepFits_of_policy (coherent : Coherent e.stores.view []) (stuck : List Task)
    (distinct : (e.timeOutAll (stuck.map (·.id))).1.stores.Distinct)
    (roomy : ¬ (0.0 : Float) < e.queue.policy.jitter ∨
      e.queue.policy.max.nanos + (Span.ofMillis Word.max64).nanos ≤ Span.longest.nanos) :
    e.SweepFits stuck := by
  induction stuck generalizing e with
  | nil => exact .done e
  | cons t rest ih =>
    have distinct_first : (e.timeOut t.id).1.stores.Distinct :=
      ((e.timeOut t.id).1.timeOutAll_completes (rest.map Task.id)).distinct_before distinct
    have coherent_first : Coherent (e.timeOut t.id).1.stores.view [] :=
      (e.timeOut_completes t.id).coherent (coherent.open_section rfl) distinct_first
    have policy : (e.timeOut t.id).1.queue.policy = e.queue.policy :=
      (timeOut_passage coherent t.id distinct_first).policy_eq
    exact .next (Queue.cooldownFits_of_policy roomy t _) (ih coherent_first distinct (policy ▸ roomy))

/-- What is left behind when these tasks were failed for running too long. -/
structure Sweeps (e : Engine) (stuck : List Task) (after : Engine) : Prop where
  ids : after.registry.tasks.map (·.id) = e.registry.tasks.map (·.id)
  failed : ∀ t ∈ stuck, ∃ time, t.ended .timeout time ∈ after.registry.tasks
  others : ∀ t ∈ e.registry.tasks, t ∉ stuck → t ∈ after.registry.tasks
  /-- The entry under the label of a task names this task, or another one of the tasks with its label. -/
  recorded : ∀ t ∈ stuck, ∃ q ∈ after.queue.entries, q.scope.label = t.scope.label ∧
    ∃ u ∈ stuck, u.scope.label = t.scope.label ∧ q.lastTask = u.id
  entries : ∀ q : QueueEntry, (∀ t ∈ stuck, t.scope.label ≠ q.scope.label) →
    (q ∈ after.queue.entries ↔ q ∈ e.queue.entries)

theorem Sweeps.refl (e : Engine) : Sweeps e [] e where
  ids := rfl
  failed := List.forall_mem_nil _
  others _ member _ := member
  recorded := List.forall_mem_nil _
  entries _ _ := .rfl

/-- One task is failed, then others that it did not stop from running. -/
theorem Sweeps.cons {between : Engine} {rest : List Task} (first : Sweeps e [t] between)
    (second : Sweeps between rest after) (running : ∀ u ∈ rest, u.status = .running) :
    Sweeps e (t :: rest) after where
  ids := second.ids.trans first.ids
  failed := by
    refine List.forall_mem_cons.mpr ⟨?_, second.failed⟩
    obtain ⟨time, member⟩ := first.failed t (List.mem_singleton_self t)
    refine ⟨time, second.others _ member fun again => ?_⟩
    have status := running _ again
    rw [Task.ended_status] at status
    cases status
  others u member apart := by
    obtain ⟨other, later⟩ := not_or.mp (mt List.mem_cons.mpr apart)
    exact second.others u (first.others u member (mt List.mem_singleton.mp other)) later
  recorded := by
    refine List.forall_mem_cons.mpr ⟨?_, fun u member => ?_⟩
    · by_cases shared : ∃ u ∈ rest, u.scope.label = t.scope.label
      · obtain ⟨u, member, label⟩ := shared
        obtain ⟨q, entry, label_q, v, failed, label_v, last⟩ := second.recorded u member
        exact ⟨q, entry, label_q.trans label, v, List.mem_cons_of_mem t failed, label_v.trans label, last⟩
      · obtain ⟨q, entry, label, u, failed, _, last⟩ := first.recorded t (List.mem_singleton_self t)
        obtain rfl := List.mem_singleton.mp failed
        refine ⟨q, (second.entries q fun v member same => shared ⟨v, member, ?_⟩).mpr entry, label, u,
          List.mem_cons_self, rfl, last⟩
        exact same.trans label
    · obtain ⟨q, entry, label, v, failed, label_v, last⟩ := second.recorded u member
      exact ⟨q, entry, label, v, List.mem_cons_of_mem t failed, label_v, last⟩
  entries q apart := by
    have head : ∀ u ∈ [t], u.scope.label ≠ q.scope.label := fun u member =>
      apart u (List.mem_singleton.mp member ▸ List.mem_cons_self)
    exact (second.entries q fun u member => apart u (List.mem_cons_of_mem t member)).trans
      (first.entries q head)

/-- A task that still runs is failed. -/
theorem timeOut_sweeps (before : e.Sound) (task : t ∈ e.registry.tasks) (running : t.status = .running)
    (distinct : (e.timeOut t.id).1.stores.Distinct) :
    (e.timeOut t.id).2 = true ∧ Sweeps e [t] (e.timeOut t.id).1 ∧
      ((e.timeOut t.id).1.isUp = true ↔ e.isUp = true ∧ e.CooldownFits t) := by
  have stores := e.stores_timeOut t.id
  rw [stores] at distinct
  obtain ⟨reported, done, _, m, result, recorded, lives⟩ :=
    recordOutcome_records before.coherent task running "timeout" _ distinct
  have reported_eq : (e.recordOutcome t.id .timeout).1 = reported := congrArg Prod.fst result
  obtain ⟨event, registry⟩ := registry_of_failure before task running "timeout" _
  have after_registry : (e.timeOut t.id).1.registry = _ := (congrArg Stores.registry stores).trans registry
  have after_queue : (e.timeOut t.id).1.queue = (e.recordOutcome t.id .timeout).1.queue :=
    congrArg Stores.queue stores
  refine ⟨?_, ⟨?_, ?_, ?_, ?_, ?_⟩, ?_⟩
  · rw [isOk_timeOut]
    exact congrArg (·.2.isOk) result
  · rw [after_registry, Registry.map_id_recorded]
  · refine List.forall_mem_singleton.mpr ⟨e.now.1, ?_⟩
    rw [after_registry]
    exact Keyed.mem_replaceBy.mpr (.inl ⟨rfl, t, task, (Task.ended_id ..).symm⟩)
  · intro u member apart
    rw [after_registry]
    refine Keyed.mem_replaceBy.mpr (.inr ⟨member, fun same => apart (List.mem_singleton.mpr ?_)⟩)
    exact Keyed.eq_of_key before.documented.unique member task (same.trans (Task.ended_id ..))
  · have coherent : Coherent reported.stores.view [] :=
      reported_eq ▸ (e.recordOutcome_completes t.id .timeout).coherent (before.coherent.open_section rfl) distinct
    obtain ⟨entry, label⟩ := ((sound_books coherent).findByScope_iff t.scope m.entry).mp recorded.found
    rw [queue_books, ← reported_eq, ← after_queue] at entry
    exact List.forall_mem_singleton.mpr
      ⟨m.entry, entry, label, t, List.mem_singleton_self t, rfl, recorded.lastTask⟩
  · intro q apart
    have found := Registry.find?_of_mem before.documented.unique task
    have settles : Settles e t.id .timeout _ _ :=
      settles_of_ok (Registry.recordOutcome_of_running found running _ none _)
    rw [after_queue]
    refine settles.other_labels before.coherent (Task.ended_status ..) distinct ?_
    exact (Task.ended_scope t _ _).symm ▸ apart t (List.mem_singleton_self t)
  · rw [isUp_of_queue after_queue rfl, reported_eq]
    exact lives

/-- Every task of a list is failed, as long as all of them run. -/
theorem timeOutAll_sweeps (before : e.Sound) {stuck : List Task} (once : (stuck.map (·.id)).Nodup)
    (running : ∀ t ∈ stuck, t ∈ e.registry.tasks ∧ t.status = .running)
    (distinct : (e.timeOutAll (stuck.map (·.id))).1.stores.Distinct) :
    (e.timeOutAll (stuck.map (·.id))).2 = stuck.map (·.id) ∧
      Sweeps e stuck (e.timeOutAll (stuck.map (·.id))).1 ∧
      ((e.timeOutAll (stuck.map (·.id))).1.isUp = true ↔ e.isUp = true ∧ e.SweepFits stuck) := by
  induction stuck generalizing e with
  | nil => exact ⟨rfl, .refl e, (and_iff_left (.done e)).symm⟩
  | cons t rest ih =>
    obtain ⟨apart, once_rest⟩ := List.nodup_cons.mp once
    obtain ⟨⟨task, runs⟩, running_rest⟩ := List.forall_mem_cons.mp running
    have distinct_first : (e.timeOut t.id).1.stores.Distinct :=
      ((e.timeOut t.id).1.timeOutAll_completes (rest.map Task.id)).distinct_before distinct
    obtain ⟨failed, first, lives⟩ := timeOut_sweeps before task runs distinct_first
    have sound : (e.timeOut t.id).1.Sound :=
      (before.completes (by simp [Section.isOpening]) (e.timeOut_completes t.id) distinct_first).1
    have still : ∀ u ∈ rest, u ∈ (e.timeOut t.id).1.registry.tasks ∧ u.status = .running := by
      intro u member
      obtain ⟨known, runs⟩ := running_rest u member
      refine ⟨first.others u known fun same => apart ?_, runs⟩
      exact List.mem_singleton.mp same ▸ List.mem_map_of_mem member
    obtain ⟨ids, second, lives_rest⟩ := ih sound once_rest still distinct
    refine ⟨?_, first.cons second fun u member => (still u member).2, ?_⟩
    · simp only [List.map_cons, timeOutAll, failed, if_true, ids]
    · rw [sweepFits_cons, ← and_assoc, ← lives]
      exact lives_rest

theorem runWatchdog_sweeps (before : e.Sound) (distinct : e.runWatchdog.1.stores.Distinct) :
    e.runWatchdog.2 = (e.registry.overdue e.timeout e.now.1).map (·.id) ∧
      Sweeps e (e.registry.overdue e.timeout e.now.1) e.runWatchdog.1 ∧
      (e.runWatchdog.1.isUp = true ↔
        e.isUp = true ∧ e.now.2.SweepFits (e.registry.overdue e.timeout e.now.1)) := by
  have pass : e.runWatchdog = e.now.2.timeOutAll ((e.registry.overdue e.timeout e.now.1).map (·.id)) :=
    congrArg e.now.2.timeOutAll Registry.timedOut_eq
  rw [pass] at distinct ⊢
  have running : ∀ t ∈ e.registry.overdue e.timeout e.now.1, t ∈ e.registry.tasks ∧ t.status = .running :=
    fun t member => ⟨(Registry.mem_overdue.mp member).1, (Registry.mem_overdue.mp member).2.1⟩
  obtain ⟨ids, sweeps, lives⟩ := timeOutAll_sweeps (e := e.now.2) ⟨before.coherent, before.documented⟩
    (Registry.nodup_overdue before.documented.unique) running distinct
  exact ⟨ids, ⟨sweeps.ids, sweeps.failed, sweeps.others, sweeps.recorded, sweeps.entries⟩, lives⟩

/-- A task after a pass was failed by it, or it was there before and not among the failed ones. -/
theorem Sweeps.origin {stuck : List Task} (sweeps : Sweeps e stuck after)
    (unique : (e.registry.tasks.map (·.id)).Nodup) {u : Task} (member : u ∈ after.registry.tasks) :
    (∃ t ∈ stuck, ∃ time, u = t.ended .timeout time) ∨ (u ∈ e.registry.tasks ∧ u ∉ stuck) := by
  have unique_after : (after.registry.tasks.map (·.id)).Nodup := sweeps.ids ▸ unique
  obtain ⟨v, known, same⟩ : ∃ v ∈ e.registry.tasks, v.id = u.id :=
    List.mem_map.mp (sweeps.ids ▸ List.mem_map_of_mem member)
  by_cases failed : v ∈ stuck
  · obtain ⟨time, ended⟩ := sweeps.failed v failed
    exact .inl ⟨v, failed, time, Keyed.eq_of_key unique_after member ended (same.symm.trans (v.ended_id ..).symm)⟩
  · obtain rfl := Keyed.eq_of_key unique_after member (sweeps.others v known failed) same.symm
    exact .inr ⟨known, failed⟩

/-- When all overdue tasks are failed, none is left. -/
theorem Sweeps.none_overdue {timeout : Span} {now : Instant}
    (sweeps : Sweeps e (e.registry.overdue timeout now) after) (unique : (e.registry.tasks.map (·.id)).Nodup) :
    ∀ t ∈ after.registry.tasks, ¬ t.IsOverdue timeout now := by
  intro t task overdue
  rcases sweeps.origin unique task with ⟨u, _, time, rfl⟩ | ⟨old, other⟩
  · have status := overdue.1
    rw [Task.ended_status] at status
    cases status
  · exact other (Registry.mem_overdue.mpr ⟨old, overdue⟩)

/-- The failed tasks keep nobody from submitting their scopes. -/
theorem Sweeps.free {stuck : List Task} (sweeps : Sweeps e stuck after) (before : e.registry.Excludes)
    (running : ∀ t ∈ stuck, t ∈ e.registry.tasks ∧ t.status = .running) (member : t ∈ stuck) :
    ¬ after.registry.Busy t.scope := by
  rintro ⟨u, task, active, overlap⟩
  rcases sweeps.origin before.unique task with ⟨v, _, time, rfl⟩ | ⟨known, other⟩
  · rw [Task.ended_status] at active
    cases active
  · obtain ⟨known_t, runs⟩ := running t member
    refine before.apart u known t known_t (fun same => other ?_) active (by rw [runs]; rfl) overlap
    exact Keyed.eq_of_key before.unique known known_t same ▸ member

theorem Reachable.excludes (h : e.Reachable) : e.registry.Excludes := by
  obtain ⟨config, audit, disk, runner, supply, told, run⟩ := h.concluded
  exact ((run.reported).ends (.start ..)).leads.excludes Registry.excludes_empty

/-- A submission of a scope that is free succeeds. -/
theorem submit_accepts (coherent : Coherent e.stores.view []) {c : SubmitCommand}
    (free : ¬ e.registry.Busy c.scope) (distinct : (e.submit c).1.supply.Distinct) :
    ∃ after created, e.submit c = (after, .ok created) :=
  submit_of_accepted coherent
    (Registry.submit_ok_iff.mpr ⟨(e.registry.activeOverlapping_eq_nil_iff _).mpr free, rfl, rfl⟩) distinct

/-- A report about a finished task is refused and changes nothing. -/
theorem report_of_finished (found : e.registry.find? t.id = some t) (terminal : t.status.isTerminal = true)
    (reported : Outcome) :
    ∃ after, e.recordOutcome t.id reported = (after, .error (.outcomeRecorded t.id t.status)) ∧
      e.Untouched after := by
  have answer := recordOutcome_of_finished found terminal reported
  rcases e.recordOutcome_cases t.id reported with ⟨r, refused⟩ | ⟨_, _, accepted, _⟩
  · rw [refused] at answer
    obtain ⟨⟨trail, registry⟩, queue⟩ := e.untouched_tellTruncation reported
    exact ⟨_, refused.trans (congrArg (Prod.mk _) answer), ⟨⟨trail, registry⟩, queue⟩⟩
  · obtain ⟨u, found_u, running, _⟩ := Registry.recordOutcome_ok accepted
    obtain rfl := Option.some.inj (found.symm.trans found_u)
    rw [running] at terminal
    cases terminal

/-- However long after a pass, a report about a task that it failed is refused. -/
theorem Sweeps.late {stuck : List Task} (sweeps : Sweeps e stuck after) (reachable : after.Reachable)
    (member : t ∈ stuck) {later : Engine} {reports : List TaskId} (run : Reported after reports later)
    (reported : Outcome) :
    ∃ last, later.recordOutcome t.id reported = (last, .error (.outcomeRecorded t.id .failed)) ∧
      later.Untouched last := by
  obtain ⟨time, ended⟩ := sweeps.failed t member
  have status : (t.ended .timeout time).status = .failed := Task.ended_status ..
  have same : (t.ended .timeout time).id = t.id := Task.ended_id ..
  have terminal : (t.ended .timeout time).status.isTerminal = true := by rw [status]; rfl
  have extends_after := (run.ends reachable).leads.extends reachable.sound.documented
  have found := Registry.find?_of_mem (run.reachable reachable).sound.documented.unique
    (extends_after.frozen _ ended terminal).1
  have refused := report_of_finished found terminal reported
  rwa [same, status] at refused

/-- What a pass of the watchdog does that names these tasks. It names, each once, exactly the tasks that have
run for the timeout or longer. It fails them, records them in the queue under their labels and frees their
scopes, and touches no other task and no entry with another label. Afterwards no task is overdue, and any later
report about one of the failed tasks is refused and changes nothing. -/
structure FailsOverdue (e : Engine) (ids : List TaskId) (after : Engine) : Prop where
  once : ids.Nodup
  named : ∀ id, id ∈ ids ↔ ∃ t ∈ e.registry.tasks, t.id = id ∧ t.IsOverdue e.timeout e.now.1
  unlimited : e.timeout.toDelta? = none → ids = []
  failed : ∀ t ∈ e.registry.tasks, t.id ∈ ids → ∃ u ∈ after.registry.tasks,
    u.id = t.id ∧ u.scope = t.scope ∧ u.status = .failed ∧ u.errorCode = some "timeout"
  free : ∀ t ∈ e.registry.tasks, t.id ∈ ids → ∀ c, c.scope = t.scope → (after.submit c).1.supply.Distinct →
    ∃ last created, after.submit c = (last, .ok created)
  recorded : ∀ t ∈ e.registry.tasks, t.id ∈ ids →
    ∃ q, after.queue.findByScope t.scope = some q ∧ q.scope.label = t.scope.label ∧
      ∃ u ∈ e.registry.tasks, u.id ∈ ids ∧ u.scope.label = t.scope.label ∧ q.lastTask = u.id
  taskIds : after.registry.tasks.map (·.id) = e.registry.tasks.map (·.id)
  others : ∀ t ∈ e.registry.tasks, t.id ∉ ids → t ∈ after.registry.tasks
  entries : ∀ q : QueueEntry, (∀ t ∈ e.registry.tasks, t.id ∈ ids → t.scope.label ≠ q.scope.label) →
    (q ∈ after.queue.entries ↔ q ∈ e.queue.entries)
  noneLeft : ∀ t ∈ after.registry.tasks, ¬ t.IsOverdue e.timeout e.now.1
  late : ∀ reports later, Reported after reports later → ∀ id ∈ ids, ∀ reported,
    ∃ last, later.recordOutcome id reported = (last, .error (.outcomeRecorded id .failed)) ∧
      later.Untouched last

/-- A sweep over the overdue tasks is a pass of the watchdog. -/
theorem Sweeps.failsOverdue (h : e.Reachable) (reachable : after.Reachable)
    (sweeps : Sweeps e (e.registry.overdue e.timeout e.now.1) after) :
    FailsOverdue e ((e.registry.overdue e.timeout e.now.1).map (·.id)) after := by
  have unique := h.sound.documented.unique
  -- A task is among the overdue ones if its identifier is.
  have known : ∀ t ∈ e.registry.tasks, t.id ∈ (e.registry.overdue e.timeout e.now.1).map (·.id) →
      t ∈ e.registry.overdue e.timeout e.now.1 := by
    intro t task named
    obtain ⟨u, member, same⟩ := List.mem_map.mp named
    exact Keyed.eq_of_key unique (Registry.mem_overdue.mp member).1 task same ▸ member
  have running : ∀ t ∈ e.registry.overdue e.timeout e.now.1, t ∈ e.registry.tasks ∧ t.status = .running :=
    fun t member => ⟨(Registry.mem_overdue.mp member).1, (Registry.mem_overdue.mp member).2.1⟩
  refine ⟨Registry.nodup_overdue unique, fun id => ?_, fun unlimited => ?_, fun t task named => ?_,
    fun t task named c scope distinct => ?_, fun t task named => ?_, sweeps.ids, fun t task unnamed => ?_,
    fun q apart => ?_, sweeps.none_overdue unique, fun reports later run id named reported => ?_⟩
  · constructor
    · intro named
      obtain ⟨t, member, same⟩ := List.mem_map.mp named
      exact ⟨t, (Registry.mem_overdue.mp member).1, same, (Registry.mem_overdue.mp member).2⟩
    · rintro ⟨t, task, rfl, late⟩
      exact List.mem_map_of_mem (Registry.mem_overdue.mpr ⟨task, late⟩)
  · exact congrArg (List.map _) (Registry.overdue_of_unlimited unlimited)
  · obtain ⟨time, member⟩ := sweeps.failed t (known t task named)
    exact ⟨_, member, Task.ended_id .., Task.ended_scope .., Task.ended_status .., rfl⟩
  · exact submit_accepts reachable.coherent (scope ▸ sweeps.free h.excludes running (known t task named)) distinct
  · obtain ⟨q, entry, label, u, member, label_u, last⟩ := sweeps.recorded t (known t task named)
    exact ⟨q, ((sound_books reachable.coherent).findByScope_iff ..).mpr ⟨entry, label⟩, label, u,
      (running u member).1, List.mem_map_of_mem member, label_u, last⟩
  · exact sweeps.others t task fun member => unnamed (List.mem_map_of_mem member)
  · exact sweeps.entries q fun t member => apart t (running t member).1 (List.mem_map_of_mem member)
  · obtain ⟨t, member, rfl⟩ := List.mem_map.mp named
    exact sweeps.late reachable member run reported

/-- The watchdog fails exactly the overdue tasks, if a cooldown can be formed for each of them in its turn. If not,
it ends the program. -/
theorem watchdog_fails_exactly_the_overdue_tasks_if_cooldowns_fit (h : e.Reachable) (up : e.isUp = true)
    {ids : List TaskId} (pass : e.runWatchdog = (after, ids)) (distinct : after.supply.Distinct) :
    (e.now.2.SweepFits (e.registry.overdue e.timeout e.now.1) → after.isUp = true ∧ FailsOverdue e ids after) ∧
    (¬ e.now.2.SweepFits (e.registry.overdue e.timeout e.now.1) → after.isUp = false) := by
  obtain ⟨named, sweeps, lives⟩ := runWatchdog_sweeps h.sound (pass ▸ distinct)
  rw [pass] at named sweeps lives
  obtain rfl : ids = _ := named
  have reachable : after.Reachable := by
    have call := h.call .runWatchdog (by rw [perform, pass]; exact distinct)
    rwa [perform, pass] at call
  refine ⟨fun fits => ⟨lives.mpr ⟨up, fits⟩, sweeps.failsOverdue h reachable⟩, fun beyond => ?_⟩
  exact Bool.eq_false_iff.mpr fun still => beyond (lives.mp still).2

/-- Of two running tasks one has run for exactly the timeout; its runner reports success too late. -/
theorem watchdog_fails_a_task_at_its_timeout :
    ∃ (e after : Engine) (ids : List TaskId), e.Reachable ∧ e.isUp = true ∧ e.runWatchdog = (after, ids) ∧
      after.supply.Distinct ∧ e.now.2.SweepFits (e.registry.overdue e.timeout e.now.1) ∧
      e.registry.tasks.map (·.status) = [.running, .running] ∧ ids = [⟨.ofNat 0⟩] ∧ after.isUp = true ∧
      after.registry.tasks.map (·.status) = [.failed, .running] ∧
      (∀ t ∈ after.registry.tasks, ¬ t.IsOverdue e.timeout e.now.1) ∧
      ∃ last, after.recordOutcome ⟨.ofNat 0⟩ (.success .none) =
        (last, .error (.outcomeRecorded ⟨.ofNat 0⟩ .failed)) ∧ after.Untouched last := by
  let supply : Supply :=
    ⟨fun n => ⟨600 * n, 0⟩, fun n => ⟨.ofNat n⟩, fun n => ⟨.ofNat n⟩, fun _ => 0, 0, 0, 0, 0⟩
  let first := (Engine.ofConfig .default (.inMemory 100) .empty .parked supply).perform
    (.submit ⟨.sources ["filings"], "ops", none, none⟩)
  let e := first.perform (.submit ⟨.sources ["news"], "ops", none, none⟩)
  have reachable : e.Reachable := ((Reachable.start ..).call _ (by decide +kernel)).call _ (by decide +kernel)
  have distinct : e.runWatchdog.1.supply.Distinct := by decide +kernel
  have pair : ∀ {p : Engine × List TaskId} {ids : List TaskId}, p.2 = ids → p = (p.1, ids) :=
    fun same => Prod.ext rfl same
  have pass := pair (show e.runWatchdog.2 = [⟨.ofNat 0⟩] by decide +kernel)
  have fits : e.now.2.SweepFits (e.registry.overdue e.timeout e.now.1) := by decide +kernel
  have up : e.isUp = true := by decide +kernel
  obtain ⟨goes_on, _⟩ :=
    watchdog_fails_exactly_the_overdue_tasks_if_cooldowns_fit (e := e) reachable up pass distinct
  obtain ⟨up_after, fails⟩ := goes_on fits
  exact ⟨e, _, _, reachable, up, pass, distinct, fits, by decide +kernel, rfl, up_after, by decide +kernel,
    fails.noneLeft, fails.late [] _ .start _ (List.mem_singleton_self _) (.success .none)⟩

/-- The watchdog ends the program at an overdue task where the cooldown for it is longer than the longest span. -/
theorem watchdog_ends_behind_the_longest_wait :
    ¬ ∀ (e after : Engine) (ids : List TaskId), e.Reachable → e.isUp = true → e.runWatchdog = (after, ids) →
      after.supply.Distinct → after.isUp = true ∧ FailsOverdue e ids after := by
  intro fails
  have distinct : underLongestWaits.runWatchdog.1.supply.Distinct := by decide +kernel
  have ended : underLongestWaits.runWatchdog.1.isUp = false := by decide +kernel
  obtain ⟨up, _⟩ := fails underLongestWaits _ _ underLongestWaits_reachable (by decide) rfl distinct
  exact absurd up (Bool.eq_false_iff.mp ended)

end Engine

end Reindexing
