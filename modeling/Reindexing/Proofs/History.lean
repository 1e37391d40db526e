import Reindexing.History
import Reindexing.Proofs.Time.Instants

/-!
# The index of the history

The log keeps its events in one list and, beside it, the positions of each task's
events. `Traced` says that the index leads to exactly the events of a task, in
their order; a new event keeps it so. From then on a timeline is the events of its
task, newest first, and the newest of them is the latest. The time of a new event
is moved forward to that of the latest one.
-/
namespace Reindexing

/-- The event up to its number. -/
def HistoryEvent.unnumbered (event : HistoryEvent) : HistoryEvent := { event with sequence := 0 }

namespace HistoryLog

variable {log : HistoryLog} {event : HistoryEvent} {task : TaskId}

theorem positions_add (log : HistoryLog) (event : HistoryEvent) (task : TaskId) :
    (log.add event).positions task =
      if event.task = task then log.positions task ++ [log.events.length] else log.positions task := by
  simp only [positions, add]
  induction log.byTask with
  | nil => by_cases same : event.task = task <;> simp [indexed, same]
  | cons entry rest ih =>
    obtain ⟨owner, positions⟩ := entry
    rw [indexed]
    by_cases owns : owner = event.task
    · by_cases same : event.task = task <;> simp [owns, same]
    · by_cases same : owner = task
      · have other : event.task ≠ task := fun eq => owns (same.trans eq.symm)
        simp [same, other, Ne.symm other]
      · simpa [owns, same] using ih

/-- The positions of a task are those of its events, in their order. -/
def Traced (log : HistoryLog) : Prop :=
  ∀ task, (log.positions task).map (log.events[·]?) = (log.events.filter (·.task = task)).map some

theorem traced_empty : Traced .empty := fun _ => rfl

/-- Positions of old events lead to the same events when one more is added. -/
theorem map_positions_append (traced : log.Traced) (event : HistoryEvent) (task : TaskId) :
    (log.positions task).map ((log.events ++ [event])[·]?) = (log.positions task).map (log.events[·]?) := by
  apply List.map_congr_left
  intro i member
  have found : log.events[i]? ∈ (log.events.filter (·.task = task)).map some := by
    rw [← traced task]
    exact List.mem_map_of_mem member
  obtain ⟨old, _, same⟩ := List.mem_map.mp found
  obtain ⟨bound, _⟩ := List.getElem?_eq_some_iff.mp same.symm
  exact List.getElem?_append_left bound

theorem Traced.add (traced : log.Traced) (event : HistoryEvent) : (log.add event).Traced := by
  intro task
  rw [positions_add, events_add, List.filter_append]
  by_cases same : event.task = task
  · rw [if_pos same, List.map_append, map_positions_append traced, traced task]
    simp [same]
  · rw [if_neg same, map_positions_append traced, traced task]
    simp [same]

/-- A timeline is the events of its task, newest first. -/
theorem Traced.timeline (traced : log.Traced) (task : TaskId) :
    log.timeline task = (log.events.filter (·.task = task)).reverse := by
  have looked_up : (log.positions task).filterMap (log.events[·]?) =
      ((log.positions task).map (log.events[·]?)).filterMap id := by
    rw [List.filterMap_map]
    rfl
  rw [HistoryLog.timeline, List.filterMap_reverse, looked_up, traced task, List.filterMap_map]
  simp

/-- The latest event of a task is the first of its timeline. -/
theorem Traced.latest (traced : log.Traced) (task : TaskId) :
    log.latest task = (log.timeline task).head? := by
  have last : ((log.positions task).map (log.events[·]?)).getLast? =
      (log.positions task).getLast?.map (log.events[·]?) := List.getLast?_map ..
  rw [traced task, List.getLast?_map] at last
  rw [traced.timeline, List.head?_reverse, HistoryLog.latest, newestOf]
  cases positions : (log.positions task).getLast? with
  | none =>
    rw [positions, Option.map_none, Option.map_eq_none_iff] at last
    rw [last]
    rfl
  | some i =>
    rw [positions] at last
    rw [Option.bind_some]
    cases newest : (log.events.filter (·.task = task)).getLast? with
    | none => simp [newest] at last
    | some event => simpa [newest] using last.symm

theorem Traced.timeline_add (traced : log.Traced) (event : HistoryEvent) (task : TaskId) :
    (log.add event).timeline task =
      if event.task = task then event :: log.timeline task else log.timeline task := by
  rw [(traced.add event).timeline, traced.timeline, events_add, List.filter_append, List.reverse_append]
  by_cases same : event.task = task <;> simp [same]

theorem nextEvent_task (log : HistoryLog) (task : TaskId) (status : TaskStatus) (time : Instant)
    (note : Option String) (trace : Option TraceLink) :
    (log.nextEvent task status time note trace).task = task := rfl

/-- A new event is not older than the latest one of its task. -/
theorem latest_le_nextEvent {last : HistoryEvent} (found : log.latest task = some last)
    (status : TaskStatus) (time : Instant) (note : Option String) (trace : Option TraceLink) :
    last.timestamp ≤ (log.nextEvent task status time note trace).timestamp := by
  simp only [nextEvent, found]
  exact Instant.le_max_right ..

/-- But for its number, an event that is recorded next follows from the timeline of its task. -/
theorem unnumbered_nextEvent {other : HistoryLog} (traced : log.Traced) (traced_other : other.Traced)
    (same : other.timeline task = log.timeline task) (status : TaskStatus) (time : Instant)
    (note : Option String) (trace : Option TraceLink) :
    (other.nextEvent task status time note trace).unnumbered =
      (log.nextEvent task status time note trace).unnumbered := by
  have latest : other.latest task = log.latest task := by rw [traced_other.latest, traced.latest, same]
  simp only [nextEvent, HistoryEvent.unnumbered, latest]

/-- The times of a timeline never go backwards. -/
def Ordered (log : HistoryLog) : Prop :=
  ∀ task, (log.timeline task).Pairwise fun newer older => older.timestamp ≤ newer.timestamp

theorem ordered_empty : Ordered .empty := fun _ => List.Pairwise.nil

theorem Ordered.add_nextEvent (ordered : log.Ordered) (traced : log.Traced) (task : TaskId)
    (status : TaskStatus) (time : Instant) (note : Option String) (trace : Option TraceLink) :
    (log.add (log.nextEvent task status time note trace)).Ordered := by
  intro other
  rw [traced.timeline_add, nextEvent_task]
  by_cases same : task = other
  · subst same
    have before := ordered task
    have latest := traced.latest task
    rw [if_pos rfl, List.pairwise_cons]
    refine ⟨?_, before⟩
    cases old : log.timeline task with
    | nil => exact List.forall_mem_nil _
    | cons last rest =>
      rw [old] at before latest
      have newest := latest_le_nextEvent latest status time note trace
      intro event member
      rcases List.mem_cons.mp member with rfl | member
      · exact newest
      · exact Instant.le_trans (List.rel_of_pairwise_cons before member) newest
  · rw [if_neg same]
    exact ordered other

end HistoryLog

end Reindexing
