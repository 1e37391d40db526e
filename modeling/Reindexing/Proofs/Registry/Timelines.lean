import Reindexing.Proofs.History
import Reindexing.Proofs.Registry.Exclusion

/-!
# Timelines of tasks

The history tells of every task what happened to it, and nothing else. The
statuses of a timeline follow from the task itself: `course` lists them from the
creation on, and a transition appends one status to it. `Documented` holds all
that history and tasks say of each other; a call that succeeds keeps it, and one
that is refused changes nothing.
-/
namespace Reindexing

namespace Task

/-- The status with which a task is created. -/
def firstStatus (t : Task) : TaskStatus := if t.retryOf.isSome then .retrying else .queued

/-- The statuses that a task has had so far, oldest first. -/
def course (t : Task) : List TaskStatus :=
  if t.status.isWaiting then [t.firstStatus]
  else if t.status = .running then [t.firstStatus, .running]
  else [t.firstStatus, .running, t.status]

theorem course_of_waiting {t : Task} (waiting : t.status.isWaiting = true) :
    t.course = [t.firstStatus] := if_pos waiting

theorem course_started {t : Task} (waiting : t.status.isWaiting = true) (now : Instant) :
    (t.started now).course = t.course ++ [.running] := by
  rw [course_of_waiting waiting]
  rfl

theorem course_ended {t : Task} (running : t.status = .running) (o : Outcome) (now : Instant) :
    (t.ended o now).course = t.course ++ [o.status] := by
  have first : (t.ended o now).firstStatus = t.firstStatus := by simp [firstStatus]
  have last : o.status ≠ .running := by cases o <;> simp [Outcome.status]
  rw [course, course, first, Task.ended_status, running, o.status_not_waiting, if_neg Bool.false_ne_true,
    if_neg last]
  rfl

/-- A course starts with the first status, then the task runs, then it is finished. -/
theorem course_prefix (t : Task) : ∃ last : TaskStatus, last.isTerminal = true ∧
    t.course <+: [t.firstStatus, .running, last] := by
  by_cases terminal : t.status.isTerminal = true
  · refine ⟨t.status, terminal, ?_⟩
    unfold course
    split
    · exact ⟨[.running, t.status], rfl⟩
    · split
      · exact ⟨[t.status], rfl⟩
      · exact List.prefix_rfl
  · have active : t.status.isActive = true := by simp [TaskStatus.isActive, terminal]
    refine ⟨.completed, rfl, ?_⟩
    unfold course
    rcases (TaskStatus.isActive_iff t.status).mp active with waiting | running
    · rw [if_pos waiting]
      exact ⟨[.running, .completed], rfl⟩
    · rw [running, if_neg (by decide), if_pos rfl]
      exact ⟨[.completed], rfl⟩

/-- A course ends with the status of the task, if the task waits in the status it was created with. -/
theorem getLast?_course {t : Task} (origin : t.status.isWaiting = true → t.status = t.firstStatus) :
    t.course.getLast? = some t.status := by
  unfold course
  split
  · next waiting => rw [origin waiting, List.getLast?_singleton]
  · split
    · next running => rw [running]; rfl
    · rfl

end Task

namespace Registry

theorem newTask_status (id : TaskId) (s : Submission) (now : Instant) :
    (newTask id s now).status = (newTask id s now).firstStatus := by
  unfold newTask Task.firstStatus
  cases s.retryOf <;> rfl

/-- What history and tasks say of each other. -/
structure Documented (r : Registry) : Prop where
  unique : (r.tasks.map (·.id)).Nodup
  traced : r.history.Traced
  ordered : r.history.Ordered
  numbered : ∀ i (event : HistoryEvent), r.history.events[i]? = some event → event.sequence = i
  owned : ∀ event ∈ r.history.events, ∃ t ∈ r.tasks, t.id = event.task
  course : ∀ t ∈ r.tasks, ((r.history.timeline t.id).map (·.status)).reverse = t.course
  origin : ∀ t ∈ r.tasks, t.status.isWaiting = true → t.status = t.firstStatus

theorem documented_empty : Documented .empty where
  unique := List.nodup_nil
  traced := HistoryLog.traced_empty
  ordered := HistoryLog.ordered_empty
  numbered := by simp [Registry.empty, HistoryLog.empty]
  owned := List.forall_mem_nil _
  course := List.forall_mem_nil _
  origin := List.forall_mem_nil _

/-- An event that is numbered by the length of the log is numbered by its position. -/
theorem numbered_add {log : HistoryLog} {event : HistoryEvent}
    (before : ∀ i (event : HistoryEvent), log.events[i]? = some event → event.sequence = i)
    (next : event.sequence = log.events.length) :
    ∀ i (e : HistoryEvent), (log.add event).events[i]? = some e → e.sequence = i := by
  intro i e found
  rw [HistoryLog.events_add, List.getElem?_append] at found
  split at found
  · exact before i e found
  · obtain ⟨position, rfl⟩ := List.getElem?_eq_some_iff.mp found
    rw [List.length_singleton] at position
    rw [List.getElem_singleton, next]
    omega

namespace Documented

variable {r after : Registry} {tr : Transition} {id : TaskId} {s : Submission} {now : Instant}

/-- A task that is not there has no events. -/
theorem timeline_eq_nil (before : r.Documented) (absent : ∀ t ∈ r.tasks, t.id ≠ id) :
    r.history.timeline id = [] := by
  rw [before.traced.timeline, List.reverse_eq_nil_iff, List.filter_eq_nil_iff]
  intro event member owns
  obtain ⟨t, task, same⟩ := before.owned event member
  exact absent t task (same.trans (of_decide_eq_true owns))

theorem submit (before : r.Documented) (fresh : ∀ t ∈ r.tasks, t.id ≠ id)
    (success : r.submit id s now = .ok (after, tr)) : after.Documented := by
  obtain ⟨_, rfl, rfl⟩ := submit_ok_iff.mp success
  have absent := before.timeline_eq_nil fresh
  exact {
    unique := by
      refine Keyed.nodup_map_append before.unique fun t member => ?_
      rw [newTask_id]
      exact fresh t member
    traced := before.traced.add _
    ordered := before.ordered.add_nextEvent before.traced _ _ _ _ _
    numbered := numbered_add before.numbered rfl
    owned := by
      intro event member
      rcases List.mem_append.mp member with old | new
      · obtain ⟨t, task, same⟩ := before.owned event old
        exact ⟨t, List.mem_append_left _ task, same⟩
      · obtain rfl := List.mem_singleton.mp new
        exact ⟨_, List.mem_append_right _ (List.mem_singleton_self _), rfl⟩
    course := by
      intro t member
      rw [before.traced.timeline_add]
      rcases List.mem_append.mp member with old | new
      · have other : (newTask id s now).id ≠ t.id := by
          rw [newTask_id]
          exact (fresh t old).symm
        rw [if_neg (by exact other)]
        exact before.course t old
      · obtain rfl := List.mem_singleton.mp new
        have own : (r.submitEvent (newTask id s now) now).task = (newTask id s now).id := rfl
        dsimp only
        rw [if_pos own, newTask_id, absent, Task.course_of_waiting (newTask_waiting ..), ← newTask_status]
        rfl
    origin := by
      intro t member waiting
      rcases List.mem_append.mp member with old | new
      · exact before.origin t old waiting
      · obtain rfl := List.mem_singleton.mp new
        exact newTask_status .. }

/-- A task may change in place when its status is appended to its course and it no longer waits. -/
theorem recorded (before : r.Documented) {old new : Task} (member : old ∈ r.tasks) (same : new.id = old.id)
    (course : new.course = old.course ++ [new.status]) (leaves : new.status.isWaiting = false)
    (time : Instant) (note : Option String) (trace : Option TraceLink) :
    (r.recorded new (r.history.nextEvent new.id new.status time note trace)).1.Documented := by
  have tasks : (r.recorded new (r.history.nextEvent new.id new.status time note trace)).1.tasks =
      Keyed.replaceBy (·.id) new r.tasks := replace_eq r new
  exact {
    unique := by
      rw [tasks, Keyed.map_key_replaceBy]
      exact before.unique
    traced := before.traced.add _
    ordered := before.ordered.add_nextEvent before.traced _ _ _ _ _
    numbered := numbered_add before.numbered rfl
    owned := by
      intro event recorded
      have known : ∃ t ∈ r.tasks, t.id = event.task := by
        rcases List.mem_append.mp recorded with known | added
        · exact before.owned event known
        · obtain rfl := List.mem_singleton.mp added
          exact ⟨old, member, same.symm⟩
      obtain ⟨t, task, owns⟩ := known
      by_cases changed : t.id = new.id
      · exact ⟨new, by rw [tasks]; exact Keyed.mem_replaceBy.mpr (.inl ⟨rfl, t, task, changed⟩),
          changed.symm.trans owns⟩
      · exact ⟨t, by rw [tasks]; exact Keyed.mem_replaceBy.mpr (.inr ⟨task, changed⟩), owns⟩
    course := by
      intro t task
      rw [tasks] at task
      rw [Registry.recorded, before.traced.timeline_add, HistoryLog.nextEvent_task]
      rcases Keyed.mem_replaceBy.mp task with ⟨rfl, _⟩ | ⟨task, other⟩
      · have told := before.course old member
        rw [if_pos rfl, List.map_cons, List.reverse_cons, same, told, course]
        rfl
      · rw [if_neg (Ne.symm other)]
        exact before.course t task
    origin := by
      intro t task waiting
      rw [tasks] at task
      rcases Keyed.mem_replaceBy.mp task with ⟨rfl, _⟩ | ⟨task, _⟩
      · rw [leaves] at waiting
        cases waiting
      · exact before.origin t task waiting }

/-- Every call keeps history and tasks in agreement. -/
theorem perform {c : Call} (before : r.Documented) (fresh : c.IsFresh r) :
    (r.perform c).1.Documented := by
  cases result : r.answer c with
  | error e => simpa [Registry.perform, result] using before
  | ok value =>
    obtain ⟨after, tr⟩ := value
    simp only [Registry.perform, result]
    cases c with
    | submit id s now => exact before.submit fresh result
    | markRunning id trace now =>
      obtain ⟨t, found, waiting, eq⟩ := markRunning_ok result
      obtain ⟨member, rfl⟩ := mem_of_find? found
      have kept := before.recorded member (Task.started_id t now) (Task.course_started waiting now) rfl
        now none trace
      rwa [Task.started_id, Task.started_status, ← eq] at kept
    | recordOutcome id o note trace now =>
      obtain ⟨t, found, running, eq⟩ := recordOutcome_ok result
      obtain ⟨member, rfl⟩ := mem_of_find? found
      have course : (t.ended o now).course = t.course ++ [(t.ended o now).status] := by
        rw [Task.ended_status, Task.course_ended running]
      have leaves : (t.ended o now).status.isWaiting = false := by
        rw [Task.ended_status, o.status_not_waiting]
      have kept := before.recorded member (Task.ended_id t o now) course leaves (t.endTime now) note trace
      rwa [Task.ended_id, Task.ended_status, ← eq] at kept

end Documented

theorem Leads.documented {start r : Registry} (first : start.Documented) (later : Leads start r) :
    r.Documented := by
  induction later with
  | refl => exact first
  | call c _ fresh ih => exact ih.perform fresh

theorem Reachable.documented {r : Registry} (h : r.Reachable) : r.Documented :=
  Leads.documented documented_empty h

/-! ### Changes of different tasks -/

/-- The registry after a task changed, with the next event of the task. -/
def noted (r : Registry) (t : Task) (time : Instant) (trace : Option TraceLink) : Registry :=
  (r.recorded t (r.history.nextEvent t.id t.status time none trace)).1

/-- What is recorded of a running task is its end. -/
theorem recordOutcome_notes {r : Registry} {t : Task} (found : r.find? t.id = some t)
    (running : t.status = .running) (o : Outcome) (trace : Option TraceLink) (now : Instant) :
    ∃ event, r.recordOutcome t.id o none trace now =
      .ok (r.noted (t.ended o now) (t.endTime now) trace, ⟨t.ended o now, event⟩) := by
  refine ⟨r.history.nextEvent t.id o.status (t.endTime now) none trace, ?_⟩
  rw [recordOutcome_of_running found running]
  simp only [noted, recorded, Task.ended_id, Task.ended_status]

/-- The same tasks with the same timelines, but for the numbers of the events. -/
structure Alike (r other : Registry) : Prop where
  tasks : other.tasks = r.tasks
  timelines : ∀ id, (other.history.timeline id).map (·.unnumbered) =
    (r.history.timeline id).map (·.unnumbered)

section
variable {r : Registry} {t u : Task} {left right : Instant} {first second : Option TraceLink}

theorem timeline_noted (traced : r.history.Traced) (id : TaskId) :
    (r.noted t left first).history.timeline id =
      if t.id = id then r.history.nextEvent t.id t.status left none first :: r.history.timeline id
      else r.history.timeline id :=
  traced.timeline_add _ id

/-- What is noted of one task next does not depend on what was noted of another. -/
theorem unnumbered_noted (traced : r.history.Traced) (other : t.id ≠ u.id) :
    ((r.noted t left first).history.nextEvent u.id u.status right none second).unnumbered =
      (r.history.nextEvent u.id u.status right none second).unnumbered := by
  have same : (r.noted t left first).history.timeline u.id = r.history.timeline u.id := by
    rw [timeline_noted traced, if_neg other]
  exact HistoryLog.unnumbered_nextEvent traced (traced.add _) same _ _ _ _

/-- Changes of different tasks are noted in either order. -/
theorem noted_comm (traced : r.history.Traced) (other : t.id ≠ u.id) :
    ((r.noted t left first).noted u right second).Alike ((r.noted u right second).noted t left first) where
  tasks := Keyed.replaceBy_comm (Ne.symm other) r.tasks
  timelines := by
    intro id
    have noted_t : (r.noted t left first).history.Traced := traced.add _
    have noted_u : (r.noted u right second).history.Traced := traced.add _
    rw [timeline_noted noted_u, timeline_noted noted_t, timeline_noted traced, timeline_noted traced]
    by_cases first_task : t.id = id
    · have second_task : u.id ≠ id := fun same => other (first_task.trans same.symm)
      simp only [first_task, second_task, if_true, if_false, List.map_cons]
      rw [← first_task, unnumbered_noted traced (Ne.symm other)]
    · by_cases second_task : u.id = id
      · simp only [first_task, second_task, if_true, if_false, List.map_cons]
        rw [← second_task, unnumbered_noted traced other]
      · simp only [first_task, second_task, if_false]

end

/-- The history of a task that is there shows the task, its whole timeline and the newest event of it,
which has the status of the task. -/
theorem Documented.taskHistory {r : Registry} (h : r.Documented) {t : Task} (member : t ∈ r.tasks) :
    ∃ group, r.taskHistory t.id = .ok group ∧ group.task = t ∧
      group.events = r.history.timeline t.id ∧ group.events.head? = some group.latest ∧
      group.latest.status = t.status := by
  have last := Task.getLast?_course (h.origin t member)
  rw [← h.course t member, List.getLast?_reverse, List.head?_map] at last
  obtain ⟨latest, newest, status⟩ := Option.map_eq_some_iff.mp last
  have found : r.history.latest t.id = some latest := (h.traced.latest t.id).trans newest
  refine ⟨⟨t, latest, r.history.timeline t.id⟩, ?_, rfl, rfl, newest, status⟩
  simp only [Registry.taskHistory, grouped, find?_of_mem h.unique member, found, bind, Option.bind]

/-- History and tasks agree in every run, whatever the clock shows. Events are numbered by their
positions; a task has events exactly when it is there; its timeline is its own events, newest first, at
times that never go backwards; its statuses begin with the one it was created with, which tells whether it
is a retry, and go on to running and to an end; and the newest of them is its status. -/
theorem history_agrees_with_tasks {r : Registry} (h : r.Reachable) :
    (∀ i (event : HistoryEvent), r.history.events[i]? = some event → event.sequence = i) ∧
    (∀ id, (∃ event ∈ r.history.events, event.task = id) ↔ ∃ t ∈ r.tasks, t.id = id) ∧
    (∀ id, r.history.timeline id = (r.history.events.filter (·.task = id)).reverse ∧
      (r.history.timeline id).Pairwise fun newer older => older.timestamp ≤ newer.timestamp) ∧
    (∀ t ∈ r.tasks, ∃ first last : TaskStatus, last.isTerminal = true ∧
      (first = .queued ∨ first = .retrying) ∧ (first = .retrying ↔ t.retryOf ≠ none) ∧
      r.history.timeline t.id ≠ [] ∧
      ((r.history.timeline t.id).map (·.status)).reverse <+: [first, .running, last]) ∧
    (∀ t ∈ r.tasks, ∃ group, r.taskHistory t.id = .ok group ∧ group.task = t ∧
      group.events = r.history.timeline t.id ∧ group.events.head? = some group.latest ∧
      group.latest.status = t.status) := by
  have documented := h.documented
  have shown : ∀ t ∈ r.tasks, r.history.timeline t.id ≠ [] := by
    intro t member empty
    obtain ⟨group, _, _, events, newest, _⟩ := documented.taskHistory member
    rw [events, empty] at newest
    cases newest
  refine ⟨documented.numbered, fun id => ⟨?_, ?_⟩, fun id => ⟨documented.traced.timeline id, documented.ordered id⟩,
    ?_, fun t member => documented.taskHistory member⟩
  · rintro ⟨event, member, rfl⟩
    exact documented.owned event member
  · rintro ⟨t, member, rfl⟩
    obtain ⟨event, told⟩ := List.exists_mem_of_ne_nil _ (shown t member)
    rw [documented.traced.timeline, List.mem_reverse, List.mem_filter] at told
    exact ⟨event, told.1, of_decide_eq_true told.2⟩
  · intro t member
    obtain ⟨last, terminal, starts⟩ := t.course_prefix
    refine ⟨t.firstStatus, last, terminal, ?_, ?_, shown t member, ?_⟩
    · unfold Task.firstStatus
      split <;> simp
    · unfold Task.firstStatus
      cases t.retryOf <;> simp
    · rw [documented.course t member]
      exact starts

/-- The clock goes back twice while a retry runs and fails; the times of its events stay where they were. -/
theorem timeline_under_a_clock_that_goes_back :
    ∃ r : Registry, r.Reachable ∧
      (r.history.timeline ⟨.ofNat 1⟩).map (fun e => (e.status, e.timestamp)) =
        [(.failed, ⟨9, 0⟩), (.running, ⟨9, 0⟩), (.retrying, ⟨9, 0⟩)] ∧
      ∃ t ∈ r.tasks, t.startedAt = some ⟨5, 0⟩ ∧
        ∃ group, r.taskHistory t.id = .ok group ∧ group.task = t ∧
          group.events = r.history.timeline t.id ∧ group.events.head? = some group.latest ∧
          group.latest.status = t.status := by
  have r₀ : Reachable .empty := .refl
  have r₁ := Leads.call (.submit ⟨.ofNat 1⟩ ⟨.all, "ops", none, none, some ⟨.ofNat 7⟩⟩ ⟨9, 0⟩) r₀ (by decide)
  have r₂ := Leads.call (.markRunning ⟨.ofNat 1⟩ none ⟨5, 0⟩) r₁ trivial
  have r₃ := Leads.call (.recordOutcome ⟨.ofNat 1⟩ (.failure "E" none) none none ⟨2, 0⟩) r₂ trivial
  obtain ⟨_, _, _, _, grouped⟩ := history_agrees_with_tasks r₃
  refine ⟨_, r₃, by decide, ?_⟩
  exact ⟨_, List.mem_singleton_self _, by decide, grouped _ (List.mem_singleton_self _)⟩

end Registry

end Reindexing
