import Reindexing.Proofs.Engine.Links

/-!
# Coherence of the stores

The invariants of registry and queue together. They speak of the stores and of
all sections that are still to be done, in whatever order and by whatever calls;
so they do not change when sections are listed in another order, they allow any
call to begin, and every section keeps them. Empty stores satisfy them.
-/
namespace Reindexing

structure Coherent (v : View) (pending : List Section) : Prop where
  issued : Issued v pending
  custody : Custody v pending
  launching : Launching v pending
  linked : Linked v pending
  indexed : Indexed v.labels v.standings
  rooted : Rooted v pending

/-- The tasks that run as retries of an entry. -/
def Registry.runningRetries (r : Registry) (id : EntryId) : List Task :=
  r.tasks.filter fun t => decide (t.status = .running) && decide (t.retryOf = some id)

namespace Coherent

variable {v after : View} {s : Section} {next rest pending others : List Section}

theorem move (before : Coherent v (s :: rest)) (move : Move v s after next)
    (distinct : after.Distinct) : Coherent after (next ++ rest) where
  issued := before.issued.move move distinct
  custody := before.custody.move before.issued move distinct
  launching := before.launching.move before.issued move distinct
  linked := before.linked.move before.issued before.custody before.launching move distinct
  indexed := before.indexed.move before.issued before.linked move
  rooted := before.rooted.move before.issued move

/-- The order of the sections that are to be done does not matter. -/
theorem perm (before : Coherent v pending) (same : pending.Perm others) : Coherent v others := by
  have back : ∀ {r : Section}, r ∈ others → r ∈ pending := same.mem_iff.mpr
  have holders_same : ∀ id, holders v others id = holders v pending id := by
    intro id
    rw [holders, holders, same.countP_eq]
  obtain ⟨issued, custody, launching, linked, indexed, rooted⟩ := before
  exact {
    issued := { issued with
      owned := fun r member => issued.owned r (back member)
      claims := fun id c taken member => issued.claims id c taken (back member)
      sound := fun r member => issued.sound r (back member) }
    custody := {
      single := fun id => holders_same id ▸ custody.single id
      running := fun e member => holders_same e.id ▸ custody.running e member }
    launching := { launching with
      waiting := fun t member => (same.countP_eq _).symm.trans (launching.waiting t member)
      known := fun r member => launching.known r (back member)
      attaches := fun entry id member => launching.attaches entry id (back member) }
    linked := { linked with
      claimed := fun r member => linked.claimed r (back member)
      restored := fun r member => linked.restored r (back member)
      current := fun t task e member retries =>
        (linked.current t task e member retries).imp id same.mem_iff.mp }
    indexed
    rooted := { rooted with
      restored := fun r member => rooted.restored r (back member)
      brings := fun r member => rooted.brings r (back member) } }

/-- A section that begins a call takes on no duty. -/
theorem open_section (before : Coherent v pending) (opening : s.isOpening = true) :
    Coherent v (s :: pending) := by
  have owned := Section.owned?_of_opening opening
  have held := Section.held?_of_opening opening
  have launched := Section.launches?_of_opening opening
  have brought := Section.brings?_of_opening opening
  have holders_same : ∀ id, holders v (s :: pending) id = holders v pending id := by
    intro id
    rw [holders_cons, owned, if_neg nofun, Nat.add_zero]
  obtain ⟨issued, custody, launching, linked, indexed, rooted⟩ := before
  exact {
    issued := { issued with
      owned := List.forall_mem_cons.mpr ⟨by simp [owned], issued.owned⟩
      claims := by
        intro id c taken member
        rcases List.mem_cons.mp member with rfl | member
        · cases opening
        · exact issued.claims id c taken member
      sound := List.forall_mem_cons.mpr ⟨by simp [held], issued.sound⟩ }
    custody := {
      single := fun id => holders_same id ▸ custody.single id
      running := fun e member => holders_same e.id ▸ custody.running e member }
    launching := { launching with
      waiting := by
        intro t member
        rw [launches_cons, launched, if_neg nofun]
        exact launching.waiting t member
      known := List.forall_mem_cons.mpr ⟨by simp [launched], launching.known⟩
      attaches := by
        intro entry id member
        rcases List.mem_cons.mp member with rfl | member
        · cases opening
        · exact launching.attaches entry id member }
    linked := { linked with
      claimed := List.forall_mem_cons.mpr ⟨by simp [held], linked.claimed⟩
      restored := List.forall_mem_cons.mpr ⟨by simp [held], linked.restored⟩
      current := fun t task e member retries =>
        (linked.current t task e member retries).imp id (List.mem_cons_of_mem s) }
    indexed
    rooted := { rooted with
      restored := List.forall_mem_cons.mpr ⟨by simp [held], rooted.restored⟩
      brings := List.forall_mem_cons.mpr ⟨by simp [brought], rooted.brings⟩ } }

theorem open_sections (before : Coherent v pending) (openings : ∀ r ∈ next, r.isOpening = true) :
    Coherent v (next ++ pending) := by
  induction next with
  | nil => exact before
  | cons r rest ih =>
    have head := openings r List.mem_cons_self
    have tail := ih fun q member => openings q (List.mem_cons_of_mem r member)
    exact tail.open_section head

/-- When nothing is left to be done, the active retries of an entry are those that run. -/
theorem retries_eq (done : Coherent v []) {t : Task} (member : t ∈ v.tasks) (id : EntryId) :
    (decide (t.status = .running) && decide (t.retryOf = some id)) = t.retries id := by
  have active : t.status.isActive = true ↔ t.status = .running :=
    ⟨fun active => (done.launching.runs_of_done member active).1, fun running => by rw [running]; rfl⟩
  by_cases running : t.status = .running
  · rw [Task.retries_of_active (active.mpr running), decide_eq_true running, Bool.true_and]
  · have ended : t.status.isActive = false := by
      rw [← Bool.not_eq_true, active]
      exact running
    simp [Task.retries, running, ended]

/-- When nothing is left to be done, a running entry has exactly one retry, which runs. -/
theorem runningRetries_of_running {w : Stores} (done : Coherent w.view []) {e : Standing}
    (member : e ∈ w.view.standings) (running : e.status = .running) :
    ∃ t, w.registry.runningRetries e.id = [t] := by
  have one := (done.custody.running e member).mp running
  have same : w.registry.runningRetries e.id = w.view.tasks.filter (·.retries e.id) :=
    List.filter_congr fun t task => done.retries_eq task e.id
  rw [holders, List.countP_nil, Nat.add_zero, List.countP_eq_length_filter, ← same] at one
  exact List.length_eq_one_iff.mp one

end Coherent

/-! ### Runs of sections -/

theorem Engine.Call.sections_open (c : Engine.Call) (timeout : Span) (cap : Nat) :
    ∀ r ∈ c.sections timeout cap, r.isOpening = true := by
  cases c <;> simp [sections, Section.isOpening]

namespace Stores

/-- Stores without tasks and entries; identifiers may have been handed out before. -/
def empty (policy : CooldownPolicy) (maxAttempts : Nat) (taskIds : List TaskId)
    (entryIds : List EntryId) : Stores :=
  ⟨.empty, .empty policy maxAttempts, taskIds, entryIds⟩

theorem coherent_empty (policy : CooldownPolicy) (maxAttempts : Nat) (taskIds : List TaskId)
    (entryIds : List EntryId) : Coherent (empty policy maxAttempts taskIds entryIds).view [] := by
  have no_tasks : (empty policy maxAttempts taskIds entryIds).view.tasks = [] := rfl
  have no_entries : (empty policy maxAttempts taskIds entryIds).view.standings = [] := rfl
  have no_labels : (empty policy maxAttempts taskIds entryIds).view.labels = [] := rfl
  constructor <;> constructor
  case issued.unique => constructor <;> simp [no_tasks, no_entries]
  all_goals simp [no_tasks, no_entries, no_labels, holders]

theorem coherent_run {w : Stores} {s : Section} {rest : List Section}
    (before : Coherent w.view (s :: rest)) (x : Inputs) (distinct : (s.run x w).1.Distinct) :
    Coherent (s.run x w).1.view ((s.run x w).2 ++ rest) :=
  before.move (Section.run_moves before.issued.unique s x) distinct

end Stores

/-- A section hands out identifiers after those handed out before. -/
theorem Section.run_ids (s : Section) (x : Inputs) (w : Stores) :
    w.taskIds <+: (s.run x w).1.taskIds ∧ w.entryIds <+: (s.run x w).1.entryIds := by
  cases s with
  | enqueue failed =>
    simp only [run]
    split
    · simp
    · dsimp only
      split <;> simp
  | release | resolve | clearCooldowns | sweep | scan => simp [run]
  | _ =>
    simp only [run]
    split <;> simp

theorem Section.distinct_of_run {s : Section} {x : Inputs} {w : Stores}
    (distinct : (s.run x w).1.Distinct) : w.Distinct :=
  ⟨distinct.1.sublist (s.run_ids x w).1.sublist, distinct.2.sublist (s.run_ids x w).2.sublist⟩

theorem Completes.distinct_before {w after : Stores} {todo : List Section}
    (run : Completes w todo after) (distinct : after.Distinct) : w.Distinct := by
  induction run with
  | done => exact distinct
  | step x _ ih => exact Section.distinct_of_run (ih distinct)

/-- Sections that run to the end keep the stores coherent. -/
theorem Completes.coherent {w after : Stores} {todo : List Section} (run : Completes w todo after)
    (before : Coherent w.view todo) (distinct : after.Distinct) : Coherent after.view [] := by
  induction run with
  | done => exact before
  | step x tail ih =>
    exact ih (Stores.coherent_run before x (tail.distinct_before distinct)) distinct

end Reindexing
