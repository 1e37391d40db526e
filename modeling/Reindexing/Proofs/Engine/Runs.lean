import Reindexing.Proofs.Engine.Coherence
import Reindexing.Proofs.Engine.Completion

/-!
# Runs of an engine

Engines that occur in runs of complete calls, under any configuration, clock and
draws, with identifiers that are handed out at most once. Every call is a run of
its sections from stores where nothing is left to be done to such stores again,
so the coherence of sections becomes an invariant of the engine. `Consistent`
says what it means for tasks and entries once no section is in between.
-/
namespace Reindexing

/-- No identifier that was drawn was drawn before. -/
def Supply.Distinct (s : Supply) : Prop :=
  ((List.range s.tasks).map s.taskIds).Nodup ∧ ((List.range s.entries).map s.entryIds).Nodup

instance (s : Supply) : Decidable s.Distinct := inferInstanceAs (Decidable (_ ∧ _))

namespace Engine

/-- What goes on beside the calls: look-ups, spans, runs, metrics and log events. -/
structure Aside (e after : Engine) : Prop where
  stores : after.stores = e.stores
  audit : after.audit = e.audit
  timeout : after.timeout = e.timeout
  sampleCap : after.sampleCap = e.sampleCap

/-- The engines that occur in runs. -/
inductive Reachable : Engine → Prop where
  | start (config : Config) (audit : AuditLog) (disk : Disk) (runner : Runner) (supply : Supply) :
      Reachable (.ofConfig config audit disk runner supply)
  | aside {e after : Engine} : Reachable e → Aside e after → Reachable after
  | call {e : Engine} (c : Call) : Reachable e → (e.perform c).supply.Distinct → Reachable (e.perform c)

/-- A call leads from coherent stores to coherent stores. -/
theorem coherent_perform {e : Engine} (before : Coherent e.stores.view []) (c : Call)
    (distinct : (e.perform c).supply.Distinct) : Coherent (e.perform c).stores.view [] := by
  have opened := before.open_sections (c.sections_open e.timeout e.sampleCap)
  rw [List.append_nil] at opened
  exact (e.perform_completes c).coherent opened distinct

theorem Reachable.coherent {e : Engine} (h : Reachable e) : Coherent e.stores.view [] := by
  induction h with
  | start config audit disk runner supply => exact Stores.coherent_empty ..
  | aside _ beside ih =>
    rw [beside.stores]
    exact ih
  | call c _ distinct ih => exact coherent_perform ih c distinct

/-- What tasks and entries say of each other between calls. -/
structure Consistent (e : Engine) : Prop where
  /-- Every lock on a scope is held by a task that the watchdog sees. -/
  active : ∀ t ∈ e.registry.tasks, t.status.isTerminal = false →
    t.status = .running ∧ t.startedAt.isSome = true
  running : ∀ q ∈ e.queue.entries, q.status = .running ↔
    ∃ t ∈ e.registry.tasks, t.status = .running ∧ t.retryOf = some q.id
  retry : ∀ q ∈ e.queue.entries, ∀ t ∈ e.registry.tasks, t.status = .running →
    t.retryOf = some q.id → e.registry.runningRetries q.id = [t] ∧ q.currentTask = some t.id ∧
      t.scope = q.scope
  idle : ∀ q ∈ e.queue.entries, q.status ≠ .running → q.currentTask = none
  roots : ∀ q ∈ e.queue.entries, ∀ id, id = q.originalTask ∨ id = q.lastTask →
    ∃ t ∈ e.registry.tasks, t.id = id ∧ t.status = .failed

section
variable {e : Engine}

theorem mem_runningRetries {r : Registry} {id : EntryId} {t : Task} :
    t ∈ r.runningRetries id ↔ t ∈ r.tasks ∧ t.status = .running ∧ t.retryOf = some id := by
  simp [Registry.runningRetries]

theorem active_of_coherent (coherent : Coherent e.stores.view []) {t : Task}
    (member : t ∈ e.registry.tasks) (active : t.status.isTerminal = false) :
    t.status = .running ∧ t.startedAt.isSome = true :=
  coherent.launching.runs_of_done member (by simp [TaskStatus.isActive, active])

theorem retries_of_running {t : Task} {id : EntryId} (running : t.status = .running)
    (retryOf : t.retryOf = some id) : t.retries id = true := by
  simp [Task.retries, running, retryOf, TaskStatus.isActive, TaskStatus.isTerminal]

theorem running_of_coherent (coherent : Coherent e.stores.view []) {q : QueueEntry}
    (member : q ∈ e.queue.entries) :
    q.status = .running ↔ ∃ t ∈ e.registry.tasks, t.status = .running ∧ t.retryOf = some q.id := by
  have standing : q.standing ∈ e.stores.view.standings := List.mem_map_of_mem member
  constructor
  · intro running
    obtain ⟨t, only⟩ := coherent.runningRetries_of_running standing running
    have found : t ∈ e.registry.runningRetries q.id := by
      rw [show e.registry.runningRetries q.id = [t] from only]
      exact List.mem_singleton_self t
    exact ⟨t, mem_runningRetries.mp found⟩
  · rintro ⟨t, task, running, retryOf⟩
    exact coherent.custody.running_of_retries task standing (retries_of_running running retryOf)

theorem retry_of_coherent (coherent : Coherent e.stores.view []) {q : QueueEntry}
    (member : q ∈ e.queue.entries) {t : Task} (task : t ∈ e.registry.tasks)
    (running : t.status = .running) (retryOf : t.retryOf = some q.id) :
    e.registry.runningRetries q.id = [t] ∧ q.currentTask = some t.id ∧ t.scope = q.scope := by
  have standing : q.standing ∈ e.stores.view.standings := List.mem_map_of_mem member
  have entry_runs := (running_of_coherent coherent member).mpr ⟨t, task, running, retryOf⟩
  obtain ⟨u, only⟩ := coherent.runningRetries_of_running standing entry_runs
  have found : t ∈ e.stores.registry.runningRetries q.id :=
    mem_runningRetries.mpr ⟨task, running, retryOf⟩
  rw [show e.stores.registry.runningRetries q.id = [u] from only] at found
  obtain rfl := List.mem_singleton.mp found
  refine ⟨only, ?_, coherent.linked.scope t task q.standing standing retryOf⟩
  rcases coherent.linked.current t task q.standing standing (retries_of_running running retryOf) with
    current | pending
  · exact current
  · cases pending

/-- Registry and retry queue stay consistent in every run of complete calls, whether a call
succeeds, is refused or chains several others as a pass of the scheduler does. -/
theorem registry_and_queue_stay_consistent (h : e.Reachable) : e.Consistent where
  active _ member := active_of_coherent h.coherent member
  running _ member := running_of_coherent h.coherent member
  retry _ member _ task := retry_of_coherent h.coherent member task
  idle q member := h.coherent.linked.idle q.standing (List.mem_map_of_mem member)
  roots q member id names := by
    obtain ⟨original, last⟩ := h.coherent.rooted.roots q.standing (List.mem_map_of_mem member)
    rcases names with rfl | rfl
    · exact original
    · exact last

end

/-- The retry of a failed task is in flight. -/
theorem consistent_during_a_retry :
    ∃ e : Engine, e.Reachable ∧ e.registry.tasks.map (·.status) = [.failed, .running] ∧
      e.queue.entries.map (·.status) = [.running] ∧ e.Consistent := by
  let supply : Supply :=
    ⟨fun _ => .epoch, fun n => ⟨.ofNat n⟩, fun n => ⟨.ofNat n⟩, fun _ => 0, 0, 0, 0, 0⟩
  have e₀ := Reachable.start .default (.inMemory 100) .empty .parked supply
  have e₁ := e₀.call (.submit ⟨.all, "ops", none, none⟩) (by decide)
  have e₂ := e₁.call (.recordOutcome ⟨.ofNat 0⟩ (.failure "E" none)) (by decide)
  have e₃ := e₂.call (.setRetryMode ⟨.ofNat 0⟩ .manual "ops") (by decide)
  have e₄ := e₃.call (.retry ⟨.ofNat 0⟩ ⟨"ops", none, false⟩) (by decide)
  exact ⟨_, e₄, by decide, by decide, registry_and_queue_stay_consistent e₄⟩

end Engine

end Reindexing
