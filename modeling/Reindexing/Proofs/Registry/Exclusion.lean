import Reindexing.Proofs.Registry.Transitions
import Reindexing.Proofs.Scope.Canonical

/-!
# Exclusion of scopes

Active tasks hold their scopes for themselves. `Excludes` is the invariant that the
scopes of active tasks with different identifiers do not overlap. One lemma shows
that a single call keeps it, and a run keeps it by induction. A finished task is
frozen, so it stands in the way of no later submission.
-/
namespace Reindexing

namespace Registry

/-- No two active tasks overlap, and no two tasks have one identifier. -/
structure Excludes (r : Registry) : Prop where
  unique : (r.tasks.map (·.id)).Nodup
  apart : ∀ t ∈ r.tasks, ∀ u ∈ r.tasks, t.id ≠ u.id → t.status.isActive = true →
    u.status.isActive = true → ¬ t.scope.Overlap u.scope

theorem excludes_empty : Excludes .empty := by
  constructor <;> simp [Registry.empty]

/-- A new task keeps its distance from all tasks, because none was in its way. -/
theorem excludes_submit {r after : Registry} {tr : Transition} {id : TaskId} {s : Submission}
    {now : Instant} (before : r.Excludes) (fresh : ∀ t ∈ r.tasks, t.id ≠ id)
    (success : r.submit id s now = .ok (after, tr)) : after.Excludes := by
  obtain ⟨free, rfl, rfl⟩ := submit_ok_iff.mp success
  have distance : ∀ t ∈ r.tasks, t.status.isActive = true → ¬ t.scope.Overlap s.scope := by
    intro t member active overlap
    have blocked : t ∈ r.activeOverlapping s.scope :=
      mem_activeOverlapping.mpr ⟨member, active, (Scope.overlaps_iff _ _).mpr overlap⟩
    simp [free] at blocked
  constructor
  · refine Keyed.nodup_map_append before.unique fun t member => ?_
    rw [newTask_id]
    exact fresh t member
  · intro t ht u hu different activeT activeU overlap
    simp only [List.mem_append, List.mem_singleton] at ht hu
    rcases ht with ht | rfl <;> rcases hu with hu | rfl
    · exact before.apart t ht u hu different activeT activeU overlap
    · exact distance t ht activeT (by simpa using overlap)
    · exact distance u hu activeU (by simpa using overlap.symm)
    · exact different rfl

/-- A task may change in place as long as its scope stays and it was active before. -/
theorem excludes_recorded {r : Registry} {old new : Task} (event : HistoryEvent)
    (before : r.Excludes) (member : old ∈ r.tasks) (id : new.id = old.id)
    (scope : new.scope = old.scope) (active : old.status.isActive = true) :
    (r.recorded new event).1.Excludes := by
  have stands : ∀ x ∈ (r.recorded new event).1.tasks, x.status.isActive = true →
      ∃ y ∈ r.tasks, y.id = x.id ∧ y.scope = x.scope ∧ y.status.isActive = true := by
    intro x hx activeX
    rcases Keyed.mem_replaceBy.mp hx with ⟨rfl, _⟩ | ⟨hx, _⟩
    · exact ⟨old, member, id.symm, scope.symm, active⟩
    · exact ⟨x, hx, rfl, rfl, activeX⟩
  constructor
  · simpa [recorded, replace_eq] using before.unique
  · intro t ht u hu different activeT activeU overlap
    obtain ⟨t', ht', idT, scopeT, activeT'⟩ := stands t ht activeT
    obtain ⟨u', hu', idU, scopeU, activeU'⟩ := stands u hu activeU
    refine before.apart t' ht' u' hu' ?_ activeT' activeU' ?_
    · rw [idT, idU]
      exact different
    · rw [scopeT, scopeU]
      exact overlap

/-- Every call keeps active tasks apart. -/
theorem excludes_perform {r : Registry} {c : Call} (before : r.Excludes) (fresh : c.IsFresh r) :
    (r.perform c).1.Excludes := by
  cases result : r.answer c with
  | error e => simpa [perform, result] using before
  | ok value =>
    obtain ⟨after, tr⟩ := value
    simp only [perform, result]
    cases c with
    | submit id s now => exact excludes_submit before fresh result
    | markRunning id trace now =>
      obtain ⟨t, found, waiting, eq⟩ := markRunning_ok result
      have kept := excludes_recorded (r.history.nextEvent id .running now none trace) before
        (mem_of_find? found).1 (Task.started_id t now) rfl (TaskStatus.isActive_of_waiting waiting)
      rwa [← eq] at kept
    | recordOutcome id o note trace now =>
      obtain ⟨t, found, running, eq⟩ := recordOutcome_ok result
      have kept := excludes_recorded
        (r.history.nextEvent id o.status (t.endTime now) note trace) before
        (mem_of_find? found).1 (Task.ended_id t o now) (Task.ended_scope t o now)
        (by rw [running]; rfl)
      rwa [← eq] at kept

theorem Leads.excludes {start r : Registry} (first : start.Excludes) (later : Leads start r) :
    r.Excludes := by
  induction later with
  | refl => exact first
  | call c _ fresh ih => exact excludes_perform ih fresh

theorem Reachable.excludes {r : Registry} (h : Reachable r) : r.Excludes :=
  Leads.excludes excludes_empty h

/-- A call leaves a finished task exactly as it is. -/
theorem perform_keeps_terminal {r : Registry} {t : Task} (unique : (r.tasks.map (·.id)).Nodup)
    (c : Call) (member : t ∈ r.tasks) (terminal : t.status.isTerminal = true) :
    t ∈ (r.perform c).1.tasks := by
  have survives : ∀ {old : Task} (new : Task) (event : HistoryEvent), old ∈ r.tasks →
      new.id = old.id → old.status.isActive = true → t ∈ (r.recorded new event).1.tasks := by
    intro old new event hold id active
    refine Keyed.mem_replaceBy.mpr (.inr ⟨member, fun same => ?_⟩)
    have eq : t = old := Keyed.eq_of_key unique member hold (same.trans id)
    rw [← eq, TaskStatus.not_active_of_terminal terminal] at active
    cases active
  cases result : r.answer c with
  | error e => simpa [perform, result] using member
  | ok value =>
    obtain ⟨after, tr⟩ := value
    simp only [perform, result]
    cases c with
    | submit id s now =>
      obtain ⟨_, _, rfl⟩ := submit_ok_iff.mp result
      exact List.mem_append_left _ member
    | markRunning id trace now =>
      obtain ⟨old, found, waiting, eq⟩ := markRunning_ok result
      have kept := survives (old.started now) (r.history.nextEvent id .running now none trace)
        (mem_of_find? found).1 rfl (TaskStatus.isActive_of_waiting waiting)
      rwa [← eq] at kept
    | recordOutcome id o note trace now =>
      obtain ⟨old, found, running, eq⟩ := recordOutcome_ok result
      have kept := survives (old.ended o now)
        (r.history.nextEvent id o.status (old.endTime now) note trace) (mem_of_find? found).1
        (Task.ended_id old o now) (by rw [running]; rfl)
      rwa [← eq] at kept

/-- A finished task is frozen in every continuation of a run. -/
theorem Leads.keeps_terminal {start r : Registry} (first : start.Excludes) (later : Leads start r)
    {t : Task} (member : t ∈ start.tasks) (terminal : t.status.isTerminal = true) :
    t ∈ r.tasks := by
  induction later with
  | refl => exact member
  | call c later _ ih => exact perform_keeps_terminal (later.excludes first).unique c ih terminal

/-- Whether an active task stands in the way of a submission of `scope`. -/
def Busy (r : Registry) (scope : Scope) : Prop :=
  ∃ t ∈ r.tasks, t.status.isActive = true ∧ t.scope.Overlap scope

instance (r : Registry) (scope : Scope) : Decidable (r.Busy scope) :=
  inferInstanceAs (Decidable (∃ t ∈ r.tasks, t.status.isActive = true ∧ t.scope.Overlap scope))

theorem activeOverlapping_eq_nil_iff (r : Registry) (scope : Scope) :
    r.activeOverlapping scope = [] ↔ ¬ r.Busy scope := by
  rw [List.eq_nil_iff_forall_not_mem]
  constructor
  · rintro free ⟨t, member, active, overlap⟩
    exact free t (mem_activeOverlapping.mpr ⟨member, active, (Scope.overlaps_iff _ _).mpr overlap⟩)
  · intro free t blocked
    obtain ⟨member, active, overlap⟩ := mem_activeOverlapping.mp blocked
    exact free ⟨t, member, active, (Scope.overlaps_iff _ _).mp overlap⟩

/-- A submission is refused exactly when its scope is busy; the refusal names a
task in the way, and the registry stays as it was. -/
theorem submit_refused_iff (r : Registry) (id : TaskId) (s : Submission) (now : Instant) :
    ((∃ a, (r.perform (.submit id s now)).2 = .error (.scopeBusy s.scope a)) ↔ r.Busy s.scope) ∧
    (∀ e, (r.perform (.submit id s now)).2 = .error e →
      (r.perform (.submit id s now)).1 = r ∧
      ∃ t ∈ r.tasks, t.status.isActive = true ∧ t.scope.Overlap s.scope ∧
        e = .scopeBusy s.scope t.id) := by
  have named : ∀ e, r.submit id s now = .error e →
      ∃ t ∈ r.tasks, t.status.isActive = true ∧ t.scope.Overlap s.scope ∧
        e = .scopeBusy s.scope t.id := by
    intro e failure
    obtain ⟨t, blocked, eq⟩ := submit_error failure
    obtain ⟨member, active, overlap⟩ := mem_activeOverlapping.mp blocked
    exact ⟨t, member, active, (Scope.overlaps_iff _ _).mp overlap, eq⟩
  cases result : r.submit id s now with
  | ok value =>
    obtain ⟨after, tr⟩ := value
    have free := (submit_ok_iff.mp result).1
    simp only [perform, answer, result]
    refine ⟨⟨?_, fun busy => ?_⟩, ?_⟩
    · rintro ⟨a, wrong⟩
      cases wrong
    · exact absurd busy ((activeOverlapping_eq_nil_iff _ _).mp free)
    · intro e wrong
      cases wrong
  | error e =>
    obtain ⟨t, member, active, overlap, rfl⟩ := named e result
    simp only [perform, answer, result]
    refine ⟨⟨fun _ => ⟨t, member, active, overlap⟩, fun _ => ⟨t.id, rfl⟩⟩, ?_⟩
    intro e' eq
    cases eq
    exact ⟨trivial, t, member, active, overlap, rfl⟩

/-- Scopes are mutually exclusive in every run. Distinct active tasks never
overlap; a submission is refused exactly when an active task overlaps it, with
such a task named and nothing changed; and a task that has finished stands in the
way of no later submission, whatever calls come in between. -/
theorem active_scopes_exclude_each_other {r : Registry} (h : r.Reachable) :
    (∀ t ∈ r.tasks, ∀ u ∈ r.tasks, t ≠ u → t.status.isActive = true →
      u.status.isActive = true → ¬ t.scope.Overlap u.scope) ∧
    (∀ id s now,
      ((∃ a, (r.perform (.submit id s now)).2 = .error (.scopeBusy s.scope a)) ↔
        r.Busy s.scope) ∧
      ∀ e, (r.perform (.submit id s now)).2 = .error e →
        (r.perform (.submit id s now)).1 = r ∧
        ∃ t ∈ r.tasks, t.status.isActive = true ∧ t.scope.Overlap s.scope ∧
          e = .scopeBusy s.scope t.id) ∧
    (∀ t ∈ r.tasks, t.status.isTerminal = true → ∀ later, Leads r later →
      t ∈ later.tasks ∧
      ∀ id s now,
        (∃ a, (later.perform (.submit id s now)).2 = .error (.scopeBusy s.scope a)) ↔
          ∃ u ∈ later.tasks, u.id ≠ t.id ∧ u.status.isActive = true ∧
            u.scope.Overlap s.scope) := by
  have before := h.excludes
  refine ⟨?_, fun id s now => submit_refused_iff r id s now, ?_⟩
  · intro t ht u hu different
    exact before.apart t ht u hu fun same =>
      different (Keyed.eq_of_key before.unique ht hu same)
  · intro t ht terminal later leads
    have stays := leads.keeps_terminal before ht terminal
    refine ⟨stays, fun id s now => (submit_refused_iff later id s now).1.trans ?_⟩
    constructor
    · rintro ⟨u, hu, active, overlap⟩
      refine ⟨u, hu, fun same => ?_, active, overlap⟩
      rw [Keyed.eq_of_key (leads.excludes before).unique hu stays same,
        TaskStatus.not_active_of_terminal terminal] at active
      cases active
    · rintro ⟨u, hu, _, active, overlap⟩
      exact ⟨u, hu, active, overlap⟩

/-- A failed task beside a running one: the failed one no longer keeps `filings`
from being submitted, the running one keeps `news` for itself. -/
theorem exclusion_beside_a_failed_task :
    ∃ r : Registry, Reachable r ∧ r.tasks.map (·.status) = [.failed, .running] ∧
      r.tasks.map (·.scope) = [.sources ["filings"], .sources ["news"]] ∧
      (∀ t ∈ r.tasks, ∀ u ∈ r.tasks, t ≠ u → t.status.isActive = true →
        u.status.isActive = true → ¬ t.scope.Overlap u.scope) ∧
      (∃ a, (r.perform (.submit ⟨.ofNat 3⟩ ⟨.all, "ops", none, none, none⟩ .epoch)).2 =
        .error (.scopeBusy .all a)) := by
  have r₀ : Reachable .empty := .refl
  have r₁ := Leads.call (.submit ⟨.ofNat 1⟩ ⟨.sources ["filings"], "ops", none, none, none⟩ .epoch)
    r₀ (by decide)
  have r₂ := Leads.call (.markRunning ⟨.ofNat 1⟩ none .epoch) r₁ trivial
  have r₃ := Leads.call (.recordOutcome ⟨.ofNat 1⟩ (.failure "E" none) none none .epoch) r₂ trivial
  have r₄ := Leads.call (.submit ⟨.ofNat 2⟩ ⟨.sources ["news"], "ops", none, none, none⟩ .epoch)
    r₃ (by decide)
  have r₅ := Leads.call (.markRunning ⟨.ofNat 2⟩ none .epoch) r₄ trivial
  obtain ⟨apart, refused, _⟩ := active_scopes_exclude_each_other r₅
  exact ⟨_, r₅, by decide, by decide, apart, (refused _ _ _).1.mpr (by decide)⟩

end Registry

end Reindexing
