import Reindexing.Proofs.Registry.Courses
import Reindexing.Proofs.Registry.Timelines

/-!
# Times of tasks and of their events

A task and its timeline keep their times apart, each moved forward by a rule of
its own: the end of a task to its start, an event to the event before it.
`milestones` computes the timeline from the task alone. An event is moved to the
creation of its task at the earliest, while the start of the task is stored as
the clock shows it; so both agree exactly if the clock did not go back between
creation and start.
-/
namespace Reindexing

namespace Instant

variable {a b c : Instant}

theorem max_eq_right (le : a ≤ b) : max a b = b := if_pos le

theorem max_eq_left (le : b ≤ a) : max a b = a := by
  change (if a ≤ b then b else a) = a
  split
  · next back =>
    obtain ⟨second_a, nano_a⟩ := a
    obtain ⟨second_b, nano_b⟩ := b
    rw [le_iff] at le back
    dsimp only at le back
    rw [Instant.mk.injEq]
    omega
  · rfl

@[simp] theorem max_self (a : Instant) : max a a = a := max_eq_left (Instant.le_refl a)

/-- An instant that was moved forward twice is moved by the later of both at once. -/
theorem max_max_max (a b c : Instant) : max (max a b) (max b c) = max (max a b) c := by
  have above := Instant.le_max_right a b
  by_cases le : b ≤ c
  · rw [max_eq_right le]
  · have back : c ≤ b := by
      rw [le_iff] at *
      omega
    rw [max_eq_left back, max_eq_left above, max_eq_left (Instant.le_trans back above)]

end Instant

namespace Task

variable {t : Task} {now : Instant}

/-- The statuses of a task, each with the time that its event has. -/
def milestones (t : Task) : List (TaskStatus × Instant) :=
  (t.firstStatus, t.createdAt) ::
    (t.startedAt.toList.map (fun s => (.running, max s t.createdAt)) ++
      t.finishedAt.toList.map fun f => (t.status, max f t.createdAt))

/-- The times of a timeline, newest event first, are those of the task itself. -/
structure AgreesWith (t : Task) (timeline : List HistoryEvent) : Prop where
  creation : timeline.getLast?.map (·.timestamp) = some t.createdAt
  start : ∀ event ∈ timeline, event.status = .running → t.startedAt = some event.timestamp
  finish : ∀ event ∈ timeline, event.status.isTerminal = true → t.finishedAt = some event.timestamp
  duration : ∀ first ∈ timeline, ∀ last ∈ timeline, first.status = .running →
    last.status.isTerminal = true →
    t.durationMillis = some (Instant.wholeMillis (last.timestamp - first.timestamp))

theorem mem_milestones {status : TaskStatus} {time : Instant} :
    (status, time) ∈ t.milestones ↔
      (status = t.firstStatus ∧ time = t.createdAt) ∨
      (∃ s, t.startedAt = some s ∧ status = .running ∧ time = max s t.createdAt) ∨
      ∃ f, t.finishedAt = some f ∧ status = t.status ∧ time = max f t.createdAt := by
  simp only [milestones, List.mem_cons, List.mem_append, List.mem_map, Option.mem_toList,
    Prod.mk.injEq, eq_comm]

theorem firstStatus_waiting (t : Task) : t.firstStatus.isWaiting = true := by
  unfold firstStatus
  split <;> rfl

/-- A task that waits has neither started nor finished. -/
theorem WellFormed.of_waiting (h : t.WellFormed) (waiting : t.status.isWaiting = true) :
    t.startedAt = none ∧ t.finishedAt = none := by
  constructor
  · rw [← Option.not_isSome_iff_eq_none, h.started, waiting]
    simp
  · rw [← Option.not_isSome_iff_eq_none, h.finished, TaskStatus.not_terminal_of_waiting waiting]
    simp

/-- A running task has started, and not finished. -/
theorem WellFormed.of_running (h : t.WellFormed) (running : t.status = .running) :
    (∃ s, t.startedAt = some s) ∧ t.finishedAt = none := by
  constructor
  · rw [← Option.isSome_iff_exists, h.started, running]
    rfl
  · rw [← Option.not_isSome_iff_eq_none, h.finished, running]
    simp [TaskStatus.isTerminal]

theorem milestones_started (h : t.WellFormed) (waiting : t.status.isWaiting = true) (now : Instant) :
    (t.started now).milestones = t.milestones ++ [(.running, max now t.createdAt)] ∧
      t.milestones.getLast? = some (t.firstStatus, t.createdAt) := by
  obtain ⟨unstarted, unfinished⟩ := h.of_waiting waiting
  have finished : (t.started now).finishedAt = none := unfinished
  simp only [milestones, unstarted, unfinished, finished]
  exact ⟨rfl, rfl⟩

theorem milestones_ended (h : t.WellFormed) {s : Instant} (running : t.status = .running)
    (started : t.startedAt = some s) (o : Outcome) (now : Instant) :
    (t.ended o now).milestones = t.milestones ++ [(o.status, max (t.endTime now) t.createdAt)] ∧
      t.milestones.getLast? = some (.running, max s t.createdAt) := by
  have unfinished := (h.of_running running).2
  have first : (t.ended o now).firstStatus = t.firstStatus := by simp [firstStatus]
  simp only [milestones, ended_startedAt, ended_finishedAt, ended_createdAt, ended_status, first, started,
    unfinished]
  exact ⟨rfl, rfl⟩

end Task

namespace Registry

variable {r after : Registry} {t : Task}

/-- The timelines of a registry show the milestones of its tasks. -/
structure Dated (r : Registry) : Prop extends Documented r where
  wellFormed : ∀ t ∈ r.tasks, t.WellFormed
  dated : ∀ t ∈ r.tasks,
    ((r.history.timeline t.id).map (fun e => (e.status, e.timestamp))).reverse = t.milestones

/-- The event that follows the last milestone of a task is moved forward to it. -/
theorem Dated.timestamp_nextEvent (before : r.Dated) (member : t ∈ r.tasks) {last : TaskStatus × Instant}
    (milestone : t.milestones.getLast? = some last) (status : TaskStatus) (time : Instant)
    (note : Option String) (trace : Option TraceLink) :
    (r.history.nextEvent t.id status time note trace).timestamp = max time last.2 := by
  rw [← before.dated t member, List.getLast?_reverse, List.head?_map] at milestone
  obtain ⟨newest, found, shown⟩ := Option.map_eq_some_iff.mp milestone
  have latest : r.history.latest t.id = some newest := (before.traced.latest t.id).trans found
  obtain rfl := shown
  simp only [HistoryLog.nextEvent, latest]

theorem Dated.submit {id : TaskId} {s : Submission} {now : Instant} {tr : Transition} (before : r.Dated)
    (fresh : ∀ t ∈ r.tasks, t.id ≠ id) (success : r.submit id s now = .ok (after, tr)) :
    ∀ t ∈ after.tasks,
      ((after.history.timeline t.id).map (fun e => (e.status, e.timestamp))).reverse = t.milestones := by
  obtain ⟨_, rfl, rfl⟩ := submit_ok_iff.mp success
  have empty := before.timeline_eq_nil fresh
  intro t member
  dsimp only at member ⊢
  rw [before.traced.timeline_add]
  rcases List.mem_append.mp member with old | new
  · rw [if_neg (by rw [submitEvent, HistoryLog.nextEvent_task, newTask_id]; exact (fresh t old).symm)]
    exact before.dated t old
  · obtain rfl := List.mem_singleton.mp new
    have unlisted : r.history.latest id = none := by
      rw [before.traced.latest, empty]
      rfl
    have waiting := newTask_waiting id s now
    obtain ⟨unstarted, unfinished⟩ := (newTask_wellFormed id s now).of_waiting waiting
    have created : (newTask id s now).createdAt = now := by
      unfold newTask
      cases s.retryOf <;> rfl
    have milestones : (newTask id s now).milestones = [((newTask id s now).status, now)] := by
      rw [newTask_status, Task.milestones, unstarted, unfinished, created]
      rfl
    rw [if_pos (by rw [submitEvent, HistoryLog.nextEvent_task]), newTask_id, empty, milestones]
    simp only [submitEvent, HistoryLog.nextEvent, newTask_id, unlisted]
    rfl

/-- A task may change in place when its event has the status and the time of the milestone it reaches. -/
theorem Dated.recorded {old new : Task} (before : r.Dated) (member : old ∈ r.tasks) (same : new.id = old.id)
    (status : TaskStatus) (time : Instant) (note : Option String) (trace : Option TraceLink)
    (reaches : new.milestones = old.milestones ++
      [(status, (r.history.nextEvent old.id status time note trace).timestamp)]) :
    ∀ t ∈ (r.recorded new (r.history.nextEvent old.id status time note trace)).1.tasks,
      (((r.recorded new (r.history.nextEvent old.id status time note trace)).1.history.timeline t.id).map
        (fun e => (e.status, e.timestamp))).reverse = t.milestones := by
  intro t task
  rw [Registry.recorded, before.traced.timeline_add, HistoryLog.nextEvent_task]
  rcases Keyed.mem_replaceBy.mp task with ⟨rfl, _⟩ | ⟨kept, other⟩
  · rw [if_pos same.symm, List.map_cons, List.reverse_cons, same, before.dated old member, reaches]
    rfl
  · rw [if_neg fun eq => other (eq.symm.trans same.symm)]
    exact before.dated t kept

/-- Every call keeps the times of tasks and events in step. -/
theorem Dated.perform {c : Call} (before : r.Dated) (fresh : c.IsFresh r) : (r.perform c).1.Dated := by
  have documented := before.toDocumented.perform fresh
  have wellFormed := Leads.wellFormed (.call c .refl fresh) before.wellFormed
  refine ⟨documented, wellFormed, ?_⟩
  cases result : r.answer c with
  | error e => simpa only [Registry.perform, result] using before.dated
  | ok value =>
    obtain ⟨after, tr⟩ := value
    simp only [Registry.perform, result]
    cases c with
    | submit id s now => exact before.submit fresh result
    | markRunning id trace now =>
      obtain ⟨t, found, waiting, eq⟩ := markRunning_ok result
      obtain ⟨member, rfl⟩ := mem_of_find? found
      obtain ⟨reaches, last⟩ := Task.milestones_started (before.wellFormed t member) waiting now
      have time := before.timestamp_nextEvent member last .running now none trace
      have dated := before.recorded member (Task.started_id t now) .running now none trace (by rw [reaches, time])
      rwa [← eq] at dated
    | recordOutcome id o note trace now =>
      obtain ⟨t, found, running, eq⟩ := recordOutcome_ok result
      obtain ⟨member, rfl⟩ := mem_of_find? found
      have wellFormed := before.wellFormed t member
      obtain ⟨⟨s, started⟩, _⟩ := wellFormed.of_running running
      obtain ⟨reaches, last⟩ := Task.milestones_ended wellFormed running started o now
      have time := before.timestamp_nextEvent member last o.status (t.endTime now) note trace
      -- The end is moved forward to the start, the event to the event of the start.
      rw [Task.endTime_of_started started, Instant.max_max_max, ← Task.endTime_of_started started] at time
      have dated := before.recorded member (Task.ended_id t o now) o.status (t.endTime now) note trace
        (by rw [reaches, time])
      rwa [← eq] at dated

theorem Reachable.dated (h : r.Reachable) : r.Dated := by
  induction h with
  | refl => exact ⟨documented_empty, List.forall_mem_nil _, List.forall_mem_nil _⟩
  | call c _ fresh ih => exact ih.perform fresh

/-- The event that a task has for each of its milestones. -/
theorem Dated.mem_timeline (h : r.Dated) (member : t ∈ r.tasks) {status : TaskStatus} {time : Instant} :
    (status, time) ∈ t.milestones ↔
      ∃ event ∈ r.history.timeline t.id, event.status = status ∧ event.timestamp = time := by
  rw [← h.dated t member, List.mem_reverse, List.mem_map]
  simp only [Prod.mk.injEq]

/-- A task agrees with its timeline unless it started before it was created. -/
theorem Dated.agreesWith (h : r.Dated) (member : t ∈ r.tasks)
    (forward : ∀ s, t.startedAt = some s → t.createdAt ≤ s) : t.AgreesWith (r.history.timeline t.id) := by
  have wellFormed := h.wellFormed t member
  have milestone : ∀ event ∈ r.history.timeline t.id, (event.status, event.timestamp) ∈ t.milestones :=
    fun event shown => (h.mem_timeline member).mpr ⟨event, shown, rfl, rfl⟩
  have start : ∀ event ∈ r.history.timeline t.id, event.status = .running →
      t.startedAt = some event.timestamp := by
    intro event shown running
    rcases Task.mem_milestones.mp (milestone event shown) with
      ⟨first, _⟩ | ⟨s, started, _, time⟩ | ⟨f, finished, last, _⟩
    · have waiting := t.firstStatus_waiting
      rw [← first, running] at waiting
      cases waiting
    · rw [started, time, Instant.max_eq_left (forward s started)]
    · have terminal := wellFormed.finished
      rw [finished, ← last, running] at terminal
      cases terminal
  have finish : ∀ event ∈ r.history.timeline t.id, event.status.isTerminal = true →
      t.finishedAt = some event.timestamp := by
    intro event shown terminal
    rcases Task.mem_milestones.mp (milestone event shown) with
      ⟨first, _⟩ | ⟨_, _, running, _⟩ | ⟨f, finished, last, time⟩
    · rw [first, TaskStatus.not_terminal_of_waiting t.firstStatus_waiting] at terminal
      cases terminal
    · rw [running] at terminal
      cases terminal
    · have set : t.startedAt.isSome = true := by
        rw [wellFormed.started, ← last, TaskStatus.not_waiting_of_terminal terminal]
        rfl
      obtain ⟨s, started⟩ := Option.isSome_iff_exists.mp set
      have later : t.createdAt ≤ f :=
        Instant.le_trans (forward s started) (wellFormed.span s f started finished).1
      rw [finished, time, Instant.max_eq_left later]
  refine ⟨?_, start, finish, ?_⟩
  · have first := congrArg List.head? (h.dated t member)
    rw [List.head?_reverse, List.getLast?_map] at first
    obtain ⟨event, last, shown⟩ := Option.map_eq_some_iff.mp first
    rw [last]
    exact congrArg some (Prod.mk.inj shown).2
  · intro first shown last shown_last running terminal
    exact (wellFormed.span _ _ (start first shown running) (finish last shown_last terminal)).2

/-- In every run a timeline has the times of its task, moved forward to the creation of the task. They
are the times that the task itself gives, and the duration between them is the one it gives, if and
only if the clock did not show an earlier time at the start than at the creation. -/
theorem timeline_agrees_unless_started_before_creation (h : r.Reachable) (member : t ∈ r.tasks) :
    ((r.history.timeline t.id).map (fun e => (e.status, e.timestamp))).reverse = t.milestones ∧
      (t.AgreesWith (r.history.timeline t.id) ↔ ∀ s, t.startedAt = some s → t.createdAt ≤ s) := by
  refine ⟨h.dated.dated t member, ?_, h.dated.agreesWith member⟩
  intro agrees s started
  have reached : (TaskStatus.running, max s t.createdAt) ∈ t.milestones :=
    Task.mem_milestones.mpr (.inr (.inl ⟨s, started, rfl, rfl⟩))
  obtain ⟨event, shown, running, time⟩ := (h.dated.mem_timeline member).mp reached
  have same := agrees.start event shown running
  rw [started, time, Option.some.injEq] at same
  rw [same]
  exact Instant.le_max_right s t.createdAt

/-- The clock goes back while a task runs: task and timeline both say that it ended when it started. -/
theorem timeline_under_a_clock_that_goes_back_after_the_start :
    ∃ r : Registry, r.Reachable ∧ ∃ t ∈ r.tasks, t.finishedAt = some ⟨5, 0⟩ ∧
      ((r.history.timeline t.id).map (fun e => (e.status, e.timestamp))).reverse =
        [(.queued, ⟨1, 0⟩), (.running, ⟨5, 0⟩), (.completed, ⟨5, 0⟩)] ∧
      t.AgreesWith (r.history.timeline t.id) := by
  let created := (Registry.empty.perform (.submit ⟨.ofNat 1⟩ ⟨.all, "ops", none, none, none⟩ ⟨1, 0⟩)).1
  let running := (created.perform (.markRunning ⟨.ofNat 1⟩ none ⟨5, 0⟩)).1
  let completed := (running.perform (.recordOutcome ⟨.ofNat 1⟩ (.success .none) none none ⟨2, 0⟩)).1
  have reachable : completed.Reachable :=
    .call _ (.call _ (.call _ .refl (by decide)) trivial) trivial
  obtain ⟨t, member, finished, shown, forward⟩ : ∃ t ∈ completed.tasks, t.finishedAt = some ⟨5, 0⟩ ∧
      ((completed.history.timeline t.id).map (fun e => (e.status, e.timestamp))).reverse =
        [(.queued, ⟨1, 0⟩), (.running, ⟨5, 0⟩), (.completed, ⟨5, 0⟩)] ∧
      ∀ s ∈ t.startedAt, t.createdAt ≤ s := by
    decide
  exact ⟨completed, reachable, t, member, finished, shown,
    (timeline_agrees_unless_started_before_creation reachable member).2.mpr forward⟩

/-- The clock goes back between creation and start: the task stores the start as the clock showed it,
and seven seconds as its duration, while three seconds lie between its events. -/
theorem timeline_disagrees_with_a_task_started_before_its_creation :
    ∃ r : Registry, r.Reachable ∧ ∃ t ∈ r.tasks, t.createdAt = ⟨9, 0⟩ ∧ t.startedAt = some ⟨5, 0⟩ ∧
      t.finishedAt = some ⟨12, 0⟩ ∧ t.durationMillis = some 7000 ∧
      ((r.history.timeline t.id).map (fun e => (e.status, e.timestamp))).reverse =
        [(.queued, ⟨9, 0⟩), (.running, ⟨9, 0⟩), (.completed, ⟨12, 0⟩)] ∧
      ¬ t.AgreesWith (r.history.timeline t.id) := by
  have r₁ := Leads.call (.submit ⟨.ofNat 1⟩ ⟨.all, "ops", none, none, none⟩ ⟨9, 0⟩) (.refl : Reachable .empty)
    (by decide)
  have r₂ := Leads.call (.markRunning ⟨.ofNat 1⟩ none ⟨5, 0⟩) r₁ trivial
  have r₃ := Leads.call (.recordOutcome ⟨.ofNat 1⟩ (.success .none) none none ⟨12, 0⟩) r₂ trivial
  exact ⟨_, r₃, _, List.mem_singleton_self _, by decide, by decide, by decide, by decide, by decide,
    fun agrees => absurd agrees.start (by decide)⟩

end Registry

end Reindexing
