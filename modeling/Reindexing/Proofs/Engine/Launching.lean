import Reindexing.Proofs.Engine.Custody

/-!
# Launching of tasks

A task that was created and not yet started waits for one section that is still
to be done, and that section cannot fail: nobody else can start the task or end
it before. When no section is left, every active task therefore runs.
-/
namespace Reindexing

/-- The task that a section starts, at once or next. -/
def Section.launches? : Section → Option TaskId
  | .attach _ task => some task
  | .start task => some task
  | _ => none

theorem Section.launches?_of_opening {s : Section} (opening : s.isOpening = true) :
    s.launches? = none := by
  cases s <;> first | rfl | cases opening

variable {v after : View} {s : Section} {next rest pending : List Section}

/-- How many sections are to start a task. -/
def launches (pending : List Section) (id : TaskId) : Nat :=
  pending.countP fun s => decide (s.launches? = some id)

/-- Exactly the waiting tasks are still to be started, each by one section. -/
structure Launching (v : View) (pending : List Section) : Prop where
  waiting : ∀ t ∈ v.tasks, launches pending t.id = if t.status.isWaiting then 1 else 0
  known : ∀ s ∈ pending, ∀ id, s.launches? = some id → ∃ t ∈ v.tasks, t.id = id
  attaches : ∀ entry id, .attach entry id ∈ pending → ∀ t ∈ v.tasks, t.id = id → t.retryOf = some entry
  started : ∀ t ∈ v.tasks, t.status = .running → t.startedAt.isSome = true

theorem launches_cons (s : Section) (rest : List Section) (id : TaskId) :
    launches (s :: rest) id = launches rest id + if s.launches? = some id then 1 else 0 := by
  simp only [launches, List.countP_cons, decide_eq_true_eq]

theorem launches_append (next rest : List Section) (id : TaskId) :
    launches (next ++ rest) id = launches next id + launches rest id :=
  List.countP_append ..

theorem launches_eq_zero (none_launches : ∀ r ∈ next, r.launches? = none) (id : TaskId) :
    launches next id = 0 := by
  rw [launches, List.countP_eq_zero]
  intro r member
  simp [none_launches r member]

theorem Section.launches?_of_settlement (t : Task) : ∀ r ∈ settlement t, r.launches? = none := by
  intro r member
  rcases mem_settlement member with ⟨_, _, _, rfl⟩ | ⟨_, _, rfl⟩ | ⟨_, rfl⟩ <;> rfl

namespace Launching

/-- A task that a pending section is to start waits for it. -/
theorem waits (before : Launching v pending) (member : s ∈ pending) {id : TaskId}
    (launches_id : s.launches? = some id) : ∃ t ∈ v.tasks, t.id = id ∧ t.status.isWaiting = true := by
  obtain ⟨t, task, rfl⟩ := before.known s member id launches_id
  refine ⟨t, task, rfl, ?_⟩
  have some_section : 0 < launches pending t.id :=
    List.countP_pos_iff.mpr ⟨s, member, decide_eq_true launches_id⟩
  rw [before.waiting t task] at some_section
  by_contra ready
  rw [if_neg ready] at some_section
  cases some_section

/-- A task that is to be attached to an entry retries it. -/
theorem attached_retries (before : Launching v pending) {entry : EntryId} {id : TaskId}
    (member : .attach entry id ∈ pending) : ∃ t ∈ v.tasks, t.id = id ∧ t.retries entry = true := by
  obtain ⟨t, task, same, waiting⟩ := before.waits member rfl
  have retryOf := before.attaches entry id member t task same
  refine ⟨t, task, same, ?_⟩
  rw [Task.retries_of_active (TaskStatus.isActive_of_waiting waiting), retryOf]
  exact decide_eq_true rfl

/-- A new task is started by the next section and by no other. -/
theorem create_waiting (issued : Issued v (s :: rest)) (before : Launching v (s :: rest)) {t : Task}
    (fresh : (v.taskIds ++ [t.id]).Nodup) (waiting : t.status.isWaiting = true) {r : Section}
    (launches_t : r.launches? = some t.id) (launches_none : s.launches? = none) :
    ∀ u ∈ v.tasks ++ [t], launches ([r] ++ rest) u.id = if u.status.isWaiting then 1 else 0 := by
  have apart : ∀ u ∈ v.tasks, u.id ≠ t.id := issued.fresh_task fresh
  intro u member
  rw [List.singleton_append, launches_cons, launches_t]
  rcases List.mem_append.mp member with member | member
  · have other : ¬ some t.id = some u.id := fun same => apart u member (Option.some.inj same).symm
    have old := before.waiting u member
    rw [launches_cons, launches_none, if_neg nofun] at old
    rw [if_neg other]
    exact old
  · obtain rfl := List.mem_singleton.mp member
    have nobody : launches rest u.id = 0 := by
      rw [launches, List.countP_eq_zero]
      intro q pending launches_u
      obtain ⟨w, task, same⟩ := before.known q (List.mem_cons_of_mem s pending) u.id
        (of_decide_eq_true launches_u)
      exact apart w task same
    rw [nobody, if_pos rfl, if_pos waiting]

/-- A task that changes is started by as many sections as its new status needs. -/
theorem change_waiting (before : Launching v (s :: rest)) {old new : Task} {event : HistoryEvent}
    (member : old ∈ v.tasks) (same : new.id = old.id) (ready : new.status.isWaiting = false)
    (none_next : ∀ r ∈ next, r.launches? = none)
    (launches_s : s.launches? = if old.status.isWaiting then some old.id else none) :
    ∀ u ∈ (v.changing new event).tasks,
      launches (next ++ rest) u.id = if u.status.isWaiting then 1 else 0 := by
  intro u changed
  rw [launches_append, launches_eq_zero none_next, Nat.zero_add]
  rcases View.mem_changing.mp changed with ⟨rfl, _⟩ | ⟨task, other⟩
  · have count := before.waiting old member
    rw [launches_cons, launches_s] at count
    rw [same, ready]
    split at count <;> simp at count ⊢ <;> exact count
  · have count := before.waiting u task
    have stays : s.launches? ≠ some u.id := by
      rw [launches_s]
      split
      · exact fun h => other ((Option.some.inj h).symm.trans same.symm)
      · nofun
    rw [launches_cons, if_neg stays] at count
    exact count

end Launching

/-- What a section leaves to be started is a task that it created, or was to start itself. -/
theorem Move.launched_next (move : Move v s after next) {r : Section} (member : r ∈ next) {id : TaskId}
    (launches_id : r.launches? = some id) :
    s.launches? = some id ∨ ∃ t ∈ after.tasks, t.id = id := by
  cases move with
  | create | resubmit =>
    obtain rfl := List.mem_singleton.mp member
    cases launches_id
    exact .inr ⟨_, List.mem_append_right _ (List.mem_singleton_self _), rfl⟩
  | attach | attachGone =>
    obtain rfl := List.mem_singleton.mp member
    exact .inl launches_id
  | sweep openings | scan openings =>
    rw [Section.launches?_of_opening (openings r member)] at launches_id
    cases launches_id
  | report =>
    rw [Section.launches?_of_settlement _ r member] at launches_id
    cases launches_id
  | claim | resubmitRefused | retryFailedGone =>
    obtain rfl := List.mem_singleton.mp member
    cases launches_id
  | _ => cases member

namespace Launching

theorem waiting_move (issued : Issued v (s :: rest)) (before : Launching v (s :: rest))
    (move : Move v s after next) (distinct : after.Distinct) :
    ∀ t ∈ after.tasks, launches (next ++ rest) t.id = if t.status.isWaiting then 1 else 0 := by
  have kept : s.launches? = none → (∀ r ∈ next, r.launches? = none) → ∀ t ∈ v.tasks,
      launches (next ++ rest) t.id = if t.status.isWaiting then 1 else 0 := by
    intro none_now none_next t member
    rw [← before.waiting t member, launches_append, launches_eq_zero none_next, launches_cons,
      none_now, if_neg nofun, Nat.zero_add, Nat.add_zero]
  cases move with
  | create waiting | resubmit waiting =>
    exact create_waiting issued before distinct.1 waiting rfl rfl
  | start member waiting =>
    refine change_waiting before member (Task.started_id ..) rfl (by simp) ?_
    rw [if_pos waiting]
    rfl
  | @startRefused id refused =>
    obtain ⟨t, member, same, waiting⟩ := before.waits List.mem_cons_self rfl
    rw [refused t member same] at waiting
    cases waiting
  | @report t o now event member running =>
    refine change_waiting before member (Task.ended_id ..) ?_ (Section.launches?_of_settlement _) ?_
    · rw [Task.ended_status]
      exact o.status_not_waiting
    · rw [running]
      rfl
  | attach | attachGone =>
    intro t member
    exact before.waiting t member
  | idle opening => exact kept (Section.launches?_of_opening opening) (by simp)
  | sweep openings | scan openings =>
    exact kept rfl fun r member => Section.launches?_of_opening (openings r member)
  | claim | resubmitRefused | retryFailedGone =>
    refine kept rfl fun r member => ?_
    obtain rfl := List.mem_singleton.mp member
    rfl
  | _ => exact kept rfl (by simp)

theorem started_move (before : Launching v (s :: rest)) (move : Move v s after next) :
    ∀ t ∈ after.tasks, t.status = .running → t.startedAt.isSome = true := by
  intro t member running
  cases move with
  | create waiting | resubmit waiting =>
    rcases List.mem_append.mp member with member | member
    · exact before.started t member running
    · obtain rfl := List.mem_singleton.mp member
      rw [running] at waiting
      cases waiting
  | start =>
    rcases View.mem_changing.mp member with ⟨rfl, _⟩ | ⟨member, _⟩
    · rfl
    · exact before.started t member running
  | @report old o =>
    rcases View.mem_changing.mp member with ⟨rfl, _⟩ | ⟨member, _⟩
    · rw [Task.ended_status] at running
      have terminal := o.status_terminal
      rw [running] at terminal
      cases terminal
    · exact before.started t member running
  | _ => exact before.started t member running

theorem attaches_move (issued : Issued v (s :: rest)) (before : Launching v (s :: rest))
    (move : Move v s after next) (distinct : after.Distinct) :
    ∀ entry id, .attach entry id ∈ next ++ rest → ∀ t ∈ after.tasks, t.id = id →
      t.retryOf = some entry := by
  have unique := move.keeps_unique issued distinct
  intro entry id member t task same
  rcases List.mem_append.mp member with member | member
  · cases move with
    | @resubmit _ _ _ new event _ retryOf =>
      cases List.mem_singleton.mp member
      have added : new ∈ (v.adding new event).tasks := by simp [View.adding]
      obtain rfl := Keyed.eq_of_key unique.tasks task added same
      exact retryOf
    | sweep openings | scan openings => cases openings _ member
    | report => cases Section.launches?_of_settlement _ _ member
    | _ => simp at member
  · have pending := List.mem_cons_of_mem s member
    obtain ⟨old, known, id_old⟩ := before.known _ pending id rfl
    obtain ⟨u, stays, id_u, _, retryOf, _⟩ := move.task_stays issued.unique known
    obtain rfl := Keyed.eq_of_key unique.tasks task stays (same.trans (id_u.trans id_old).symm)
    exact retryOf.trans (before.attaches entry id pending old known id_old)

theorem move (issued : Issued v (s :: rest)) (before : Launching v (s :: rest))
    (move : Move v s after next) (distinct : after.Distinct) : Launching after (next ++ rest) := by
  have stays : ∀ {id : TaskId}, (∃ t ∈ v.tasks, t.id = id) → ∃ t ∈ after.tasks, t.id = id := by
    rintro _ ⟨t, member, rfl⟩
    obtain ⟨u, member, id, _⟩ := move.task_stays issued.unique member
    exact ⟨u, member, id⟩
  refine ⟨before.waiting_move issued move distinct, ?_, before.attaches_move issued move distinct,
    before.started_move move⟩
  intro r member id launches_id
  rcases List.mem_append.mp member with member | member
  · rcases move.launched_next member launches_id with launches_now | new
    · exact stays (before.known s List.mem_cons_self id launches_now)
    · exact new
  · exact stays (before.known r (List.mem_cons_of_mem s member) id launches_id)

/-- When nothing is left to be done, every active task runs and has a start. -/
theorem runs_of_done (before : Launching v []) {t : Task} (member : t ∈ v.tasks)
    (active : t.status.isActive = true) : t.status = .running ∧ t.startedAt.isSome = true := by
  have ready : t.status.isWaiting = false := by
    have count := before.waiting t member
    by_contra waiting
    rw [if_pos (by simpa using waiting)] at count
    cases count
  have running : t.status = .running := by
    rcases (TaskStatus.isActive_iff t.status).mp active with waiting | running
    · rw [ready] at waiting
      cases waiting
    · exact running
  exact ⟨running, before.started t member running⟩

end Launching

end Reindexing
