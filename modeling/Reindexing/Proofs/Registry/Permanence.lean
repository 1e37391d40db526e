import Reindexing.Proofs.Registry.Timelines

/-!
# What stays in the registry

A run of the registry adds to it and takes nothing back: events are appended,
tasks stay, and a finished task stays as it is, with its whole history. One call
appends at most one event, and never one of a finished task; `Extends` says what
follows for a whole run.
-/
namespace Reindexing.Registry

variable {r after last : Registry}

/-- A registry that holds all that another one held. -/
structure Extends (r after : Registry) : Prop where
  events : r.history.events <+: after.history.events
  tasks : r.tasks.map (·.id) <+: after.tasks.map (·.id)
  frozen : ∀ t ∈ r.tasks, t.status.isTerminal = true →
    t ∈ after.tasks ∧ after.taskHistory t.id = r.taskHistory t.id

theorem Extends.refl (r : Registry) : r.Extends r where
  events := List.prefix_rfl
  tasks := List.prefix_rfl
  frozen _ member _ := ⟨member, rfl⟩

theorem Extends.trans (first : r.Extends after) (second : after.Extends last) : r.Extends last where
  events := first.events.trans second.events
  tasks := first.tasks.trans second.tasks
  frozen t member terminal := by
    obtain ⟨stays, same⟩ := first.frozen t member terminal
    obtain ⟨remains, again⟩ := second.frozen t stays terminal
    exact ⟨remains, again.trans same⟩

theorem map_id_recorded (new : Task) (event : HistoryEvent) :
    (r.recorded new event).1.tasks.map (·.id) = r.tasks.map (·.id) := by
  rw [show (r.recorded new event).1.tasks = Keyed.replaceBy (·.id) new r.tasks from replace_eq r new,
    Keyed.map_key_replaceBy]

/-- A call adds at most one task, and at most one event, which is about a task that is not finished. -/
theorem perform_adds (unique : (r.tasks.map (·.id)).Nodup) (c : Call) (fresh : c.IsFresh r) :
    r.tasks.map (·.id) <+: (r.perform c).1.tasks.map (·.id) ∧
    ((r.perform c).1.history = r.history ∨ ∃ event, (r.perform c).1.history = r.history.add event ∧
      ∀ t ∈ r.tasks, t.id = event.task → t.status.isTerminal = false) := by
  -- The event of a task in place is not about another task, as identifiers are unique.
  have apart : ∀ {old : Task}, old ∈ r.tasks → old.status.isTerminal = false →
      ∀ t ∈ r.tasks, t.id = old.id → t.status.isTerminal = false := by
    intro old member unfinished t task same
    rwa [Keyed.eq_of_key unique task member same]
  cases result : r.answer c with
  | error e =>
    simp only [perform, result]
    exact ⟨List.prefix_rfl, .inl trivial⟩
  | ok value =>
    obtain ⟨after, tr⟩ := value
    simp only [perform, result]
    cases c with
    | submit id s now =>
      obtain ⟨_, rfl, rfl⟩ := submit_ok_iff.mp result
      refine ⟨by simp, .inr ⟨_, rfl, ?_⟩⟩
      intro t member same
      exact absurd (same.trans (newTask_id id s now)) (fresh t member)
    | markRunning id trace now =>
      obtain ⟨old, found, waiting, eq⟩ := markRunning_ok result
      obtain ⟨member, rfl⟩ := mem_of_find? found
      have unfinished := TaskStatus.not_terminal_of_waiting waiting
      obtain ⟨rfl, rfl⟩ := Prod.mk.inj eq
      exact ⟨(map_id_recorded ..).symm ▸ List.prefix_rfl, .inr ⟨_, rfl, apart member unfinished⟩⟩
    | recordOutcome id o note trace now =>
      obtain ⟨old, found, running, eq⟩ := recordOutcome_ok result
      obtain ⟨member, rfl⟩ := mem_of_find? found
      have unfinished : old.status.isTerminal = false := by rw [running]; rfl
      obtain ⟨rfl, rfl⟩ := Prod.mk.inj eq
      exact ⟨(map_id_recorded ..).symm ▸ List.prefix_rfl, .inr ⟨_, rfl, apart member unfinished⟩⟩

/-- The history of a task depends on the task and its timeline only. -/
theorem Documented.taskHistory_congr (documented : r.Documented) (documented_after : after.Documented)
    {t : Task} (member : t ∈ r.tasks) (stays : t ∈ after.tasks)
    (same : after.history.timeline t.id = r.history.timeline t.id) :
    after.taskHistory t.id = r.taskHistory t.id := by
  have latest : after.history.latest t.id = r.history.latest t.id := by
    rw [documented.traced.latest, documented_after.traced.latest, same]
  rw [Registry.taskHistory, Registry.taskHistory, grouped, grouped, find?_of_mem documented.unique member,
    find?_of_mem documented_after.unique stays, latest, same]

theorem Documented.extends_perform (documented : r.Documented) {c : Call} (fresh : c.IsFresh r) :
    r.Extends (r.perform c).1 := by
  obtain ⟨tasks, events⟩ := perform_adds documented.unique c fresh
  have timelines : ∀ t ∈ r.tasks, t.status.isTerminal = true →
      (r.perform c).1.history.timeline t.id = r.history.timeline t.id := by
    intro t member terminal
    rcases events with same | ⟨event, added, unfinished⟩
    · rw [same]
    · have other : event.task ≠ t.id := by
        intro same
        rw [unfinished t member same.symm] at terminal
        cases terminal
      rw [added, documented.traced.timeline_add, if_neg other]
  exact {
    events := by
      rcases events with same | ⟨event, added, _⟩
      · simp only [same, List.prefix_rfl]
      · rw [added, HistoryLog.events_add]
        exact List.prefix_append ..
    tasks
    frozen := by
      intro t member terminal
      have stays := perform_keeps_terminal documented.unique c member terminal
      exact ⟨stays, documented.taskHistory_congr (documented.perform fresh) member stays
        (timelines t member terminal)⟩ }

/-- A run takes nothing back. -/
theorem Leads.extends (later : Leads r after) (documented : r.Documented) : r.Extends after := by
  induction later with
  | refl => exact .refl r
  | call c earlier fresh ih => exact ih.trans ((earlier.documented documented).extends_perform fresh)

theorem Leads.trans (first : Leads r after) (second : Leads after last) : Leads r last := by
  induction second with
  | refl => exact first
  | call c _ fresh ih => exact .call c ih fresh

end Reindexing.Registry
