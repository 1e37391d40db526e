import Reindexing.Proofs.Registry.Permanence

/-!
# Listing the history

A listing goes through the index of the log, and looks each task up among the tasks
and its events up in the log. It misses no task and repeats none, since the index
names every task with events once; its order is that of the sequence numbers of the
latest events, which are positions in the log, so that the clock has no part in it.
-/
namespace Reindexing

namespace HistoryLog

variable {log : HistoryLog} {event : HistoryEvent} {task other : TaskId}

/-- The index names no task twice. -/
def IndexedOnce (log : HistoryLog) : Prop := (log.byTask.map (·.1)).Nodup

theorem map_fst_indexed (task : TaskId) (position : Nat) (index : List (TaskId × List Nat)) :
    (indexed task position index).map (·.1) =
      if task ∈ index.map (·.1) then index.map (·.1) else index.map (·.1) ++ [task] := by
  induction index with
  | nil => simp [indexed]
  | cons entry rest ih =>
    obtain ⟨owner, positions⟩ := entry
    rw [indexed]
    by_cases owns : owner = task
    · simp [owns]
    · rw [if_neg owns, List.map_cons, ih]
      by_cases later : task ∈ rest.map (·.1) <;> simp [later, Ne.symm owns]

theorem IndexedOnce.add (once : log.IndexedOnce) (event : HistoryEvent) : (log.add event).IndexedOnce := by
  unfold IndexedOnce HistoryLog.add
  rw [map_fst_indexed]
  split
  · exact once
  · next new =>
    apply List.nodup_append.mpr
    refine ⟨once, by simp, ?_⟩
    intro known member unknown new_member same
    rw [List.mem_singleton.mp new_member] at same
    exact new (same ▸ member)

/-- What the index says of a task is where its events are. -/
theorem IndexedOnce.positions_of_mem (once : log.IndexedOnce) {positions : List Nat}
    (member : (task, positions) ∈ log.byTask) : log.positions task = positions := by
  have found : log.byTask.find? (·.1 = task) = some (task, positions) := Keyed.find?_of_mem once member
  rw [HistoryLog.positions, found]
  rfl

/-- The sequence numbers of the latest events of all tasks, in the order of the index. -/
def newest (log : HistoryLog) : List (Nat × TaskId) :=
  log.byTask.filterMap fun (task, positions) =>
    (log.newestOf positions).map fun event => (event.sequence, task)

theorem mem_newest (once : log.IndexedOnce) {sequence : Nat} :
    (sequence, task) ∈ log.newest ↔ ∃ event, log.latest task = some event ∧ event.sequence = sequence := by
  simp only [newest, List.mem_filterMap, Option.map_eq_some_iff, Prod.mk.injEq]
  constructor
  · rintro ⟨⟨owner, positions⟩, member, event, found, same, rfl⟩
    refine ⟨event, ?_, same⟩
    rw [HistoryLog.latest, once.positions_of_mem member, found]
  · rintro ⟨event, found, same⟩
    cases indexed : log.byTask.find? (·.1 = task) with
    | none => simp [HistoryLog.latest, HistoryLog.positions, indexed, newestOf] at found
    | some entry =>
      obtain ⟨member, rfl⟩ := Keyed.mem_of_find? indexed
      have stored : log.positions entry.1 = entry.2 := once.positions_of_mem member
      refine ⟨entry, member, event, ?_, same, rfl⟩
      rwa [← stored]

/-- No task has two latest events. -/
theorem nodup_newest (once : log.IndexedOnce) : (log.newest.map (·.2)).Nodup := by
  unfold IndexedOnce List.Nodup at once
  unfold newest List.Nodup
  rw [List.pairwise_map] at once ⊢
  refine List.pairwise_filterMap.mpr (once.imp ?_)
  intro a b different x hx y hy
  obtain ⟨_, _, rfl⟩ := Option.map_eq_some_iff.mp hx
  obtain ⟨_, _, rfl⟩ := Option.map_eq_some_iff.mp hy
  exact different

theorem tasksByRecency_eq (log : HistoryLog) :
    log.tasksByRecency = (log.newest.mergeSort fun a b => decide (b.1 ≤ a.1)).map (·.2) := rfl

theorem mem_tasksByRecency (once : log.IndexedOnce) :
    task ∈ log.tasksByRecency ↔ ∃ event, log.latest task = some event := by
  simp only [tasksByRecency_eq, List.mem_map, List.mem_mergeSort]
  constructor
  · rintro ⟨⟨sequence, owner⟩, member, rfl⟩
    obtain ⟨event, found, _⟩ := (mem_newest once).mp member
    exact ⟨event, found⟩
  · rintro ⟨event, found⟩
    exact ⟨(event.sequence, task), (mem_newest once).mpr ⟨event, found, rfl⟩, rfl⟩

theorem nodup_tasksByRecency (once : log.IndexedOnce) : log.tasksByRecency.Nodup := by
  rw [tasksByRecency_eq]
  exact (((List.mergeSort_perm _ _).map _).nodup_iff).mpr (nodup_newest once)

/-- The latest event of a task is one of its events, and the last of them. -/
theorem latest_of_traced (traced : log.Traced) (found : log.latest task = some event) :
    event ∈ log.events ∧ event.task = task := by
  rw [traced.latest, traced.timeline] at found
  have member := List.mem_of_mem_head? found
  rw [List.mem_reverse, List.mem_filter] at member
  exact ⟨member.1, of_decide_eq_true member.2⟩

/-- Events of different tasks have different numbers. -/
theorem sequence_ne (traced : log.Traced)
    (numbered : ∀ i (event : HistoryEvent), log.events[i]? = some event → event.sequence = i)
    {a b : HistoryEvent} (here : log.latest task = some a) (there : log.latest other = some b)
    (different : task ≠ other) : a.sequence ≠ b.sequence := by
  obtain ⟨member_a, rfl⟩ := latest_of_traced traced here
  obtain ⟨member_b, rfl⟩ := latest_of_traced traced there
  obtain ⟨i, at_i⟩ := List.mem_iff_getElem?.mp member_a
  obtain ⟨j, at_j⟩ := List.mem_iff_getElem?.mp member_b
  intro same
  rw [numbered i a at_i, numbered j b at_j] at same
  subst same
  rw [at_i] at at_j
  exact different (congrArg HistoryEvent.task (Option.some.inj at_j))

/-- A task that comes first has the newer latest event. -/
theorem tasksByRecency_decreasing (once : log.IndexedOnce) (traced : log.Traced)
    (numbered : ∀ i (event : HistoryEvent), log.events[i]? = some event → event.sequence = i) :
    log.tasksByRecency.Pairwise fun first second => ∀ a b, log.latest first = some a →
      log.latest second = some b → b.sequence < a.sequence := by
  have sorted : (log.newest.mergeSort fun a b => decide (b.1 ≤ a.1)).Pairwise
      fun a b => decide (b.1 ≤ a.1) = true := by
    refine List.pairwise_mergeSort ?_ ?_ _
    · intro a b c ab bc
      exact decide_eq_true (Nat.le_trans (of_decide_eq_true bc) (of_decide_eq_true ab))
    · intro a b
      rw [Bool.or_eq_true, decide_eq_true_eq, decide_eq_true_eq]
      exact Nat.le_total b.1 a.1
  have distinct := nodup_tasksByRecency once
  rw [tasksByRecency_eq, List.Nodup, List.pairwise_map] at distinct
  rw [tasksByRecency_eq, List.pairwise_map]
  refine (sorted.and distinct).imp_of_mem ?_
  rintro ⟨m, first⟩ ⟨n, second⟩ in_front behind ⟨le, different⟩ a b here there
  rw [List.mem_mergeSort] at in_front behind
  obtain ⟨a', here', rfl⟩ := (mem_newest once).mp in_front
  obtain ⟨b', there', rfl⟩ := (mem_newest once).mp behind
  obtain rfl := Option.some.inj (here.symm.trans here')
  obtain rfl := Option.some.inj (there.symm.trans there')
  have apart := sequence_ne traced numbered here there different
  have le : b.sequence ≤ a.sequence := of_decide_eq_true le
  omega

end HistoryLog

/-- The filter selects a task by its current status and by its texts. -/
def HistoryFilter.Selects (filter : HistoryFilter) (t : Task) : Prop :=
  (filter.statuses = [] ∨ t.status ∈ filter.statuses) ∧
    ∀ query, filter.search = some query → t.matchesText query = true

namespace Registry

variable {r : Registry} {t : Task} {g : TaskHistory} {filter : HistoryFilter}

theorem Leads.indexedOnce {start : Registry} (later : Leads start r) (documented : start.Documented)
    (once : start.history.IndexedOnce) : r.history.IndexedOnce := by
  induction later with
  | refl => exact once
  | call c earlier fresh ih =>
    rcases (perform_adds (earlier.documented documented).unique c fresh).2 with same | ⟨event, added, _⟩
    · rwa [same]
    · rw [added]
      exact ih.add event

theorem Reachable.indexedOnce (h : r.Reachable) : r.history.IndexedOnce :=
  Leads.indexedOnce h documented_empty List.nodup_nil

/-- A task is grouped with its latest event and its timeline. -/
structure Groups (r : Registry) (g : TaskHistory) : Prop where
  task : g.task ∈ r.tasks
  latest : r.history.latest g.task.id = some g.latest
  events : g.events = r.history.timeline g.task.id

theorem Groups.unique {h : TaskHistory} (first : r.Groups g) (second : r.Groups h)
    (same : g.task = h.task) : g = h := by
  obtain ⟨task, latest, events⟩ := g
  obtain ⟨task', latest', events'⟩ := h
  obtain rfl : task = task' := same
  obtain rfl : latest = latest' := Option.some.inj (first.latest.symm.trans second.latest)
  obtain rfl : events = events' := first.events.trans second.events.symm
  rfl

theorem groups_of_grouped {id : TaskId} (found : r.grouped id = some g) : g.task.id = id ∧ r.Groups g := by
  simp only [grouped, Option.bind_eq_bind, Option.bind_eq_some_iff] at found
  obtain ⟨task, stored, latest, newest, same⟩ := found
  obtain rfl := Option.some.inj same
  obtain ⟨member, rfl⟩ := mem_of_find? stored
  exact ⟨rfl, member, newest, rfl⟩

theorem Groups.grouped (groups : r.Groups g) (unique : (r.tasks.map (·.id)).Nodup) :
    r.grouped g.task.id = some g := by
  obtain ⟨task, latest, events⟩ := g
  have events_eq : events = r.history.timeline task.id := groups.events
  have stored : r.find? task.id = some task := find?_of_mem unique groups.task
  have newest : r.history.latest task.id = some latest := groups.latest
  simp [Registry.grouped, stored, newest, events_eq]

/-- Every task is grouped, under the event that has its status. -/
theorem Documented.exists_groups (h : r.Documented) (member : t ∈ r.tasks) :
    ∃ g, r.Groups g ∧ g.task = t ∧ g.latest.status = t.status ∧ g.events.head? = some g.latest := by
  obtain ⟨g, found, rfl, events, newest, status⟩ := h.taskHistory member
  refine ⟨g, ⟨member, ?_, events⟩, rfl, status, newest⟩
  rw [h.traced.latest, ← events]
  exact newest

theorem Documented.status_of_groups (h : r.Documented) (groups : r.Groups g) :
    g.latest.status = g.task.status ∧ g.events.head? = some g.latest := by
  obtain ⟨g', groups', same, status, newest⟩ := h.exists_groups groups.task
  obtain rfl := groups.unique groups' same.symm
  exact ⟨status, newest⟩

theorem Documented.matches_iff (h : r.Documented) (groups : r.Groups g) :
    filter.matches g.task g.latest = true ↔ filter.Selects g.task := by
  rw [HistoryFilter.matches, (h.status_of_groups groups).1]
  simp [HistoryFilter.Selects, Option.all_eq_true]

/-- The listing holds the groups of the selected tasks, and nothing else. -/
theorem Documented.mem_listHistory (h : r.Documented) (once : r.history.IndexedOnce) :
    g ∈ r.listHistory filter ↔ r.Groups g ∧ filter.Selects g.task := by
  simp only [listHistory, List.mem_filter, List.mem_filterMap]
  constructor
  · rintro ⟨⟨id, _, found⟩, selected⟩
    obtain ⟨_, groups⟩ := groups_of_grouped found
    exact ⟨groups, (h.matches_iff groups).mp selected⟩
  · rintro ⟨groups, selected⟩
    refine ⟨⟨g.task.id, ?_, groups.grouped h.unique⟩, (h.matches_iff groups).mpr selected⟩
    exact (HistoryLog.mem_tasksByRecency once).mpr ⟨g.latest, groups.latest⟩

theorem Documented.listHistory_decreasing (h : r.Documented) (once : r.history.IndexedOnce) :
    (r.listHistory filter).Pairwise fun first second => second.latest.sequence < first.latest.sequence := by
  refine List.Pairwise.filter _ (List.pairwise_filterMap.mpr ?_)
  refine (HistoryLog.tasksByRecency_decreasing once h.traced h.numbered).imp ?_
  intro a b newer first found second found'
  obtain ⟨rfl, groups⟩ := groups_of_grouped found
  obtain ⟨rfl, groups'⟩ := groups_of_grouped found'
  exact newer _ _ groups.latest groups'.latest

/-- No event has a higher number than the one that was recorded last. -/
theorem Documented.sequence_le_last (h : r.Documented) {event last : HistoryEvent}
    (member : event ∈ r.history.events) (ends : r.history.events.getLast? = some last) :
    event.sequence ≤ last.sequence := by
  obtain ⟨i, at_i⟩ := List.mem_iff_getElem?.mp member
  obtain ⟨bound, _⟩ := List.getElem?_eq_some_iff.mp at_i
  rw [List.getLast?_eq_getElem?] at ends
  rw [h.numbered i event at_i, h.numbered _ last ends]
  omega

/-- The task of the event that was recorded last has it as its latest one. -/
theorem Documented.latest_last (h : r.Documented) {last : HistoryEvent}
    (ends : r.history.events.getLast? = some last) : r.history.latest last.task = some last := by
  obtain ⟨earlier, same⟩ := List.getLast?_eq_some_iff.mp ends
  rw [h.traced.latest, h.traced.timeline, same]
  simp

/-- A selected task whose event was recorded last heads the listing. -/
theorem Documented.head?_listHistory (h : r.Documented) (once : r.history.IndexedOnce) {last : HistoryEvent}
    (ends : r.history.events.getLast? = some last) (groups : r.Groups g) (owns : g.task.id = last.task)
    (selected : filter.Selects g.task) : (r.listHistory filter).head? = some g ∧ g.latest = last := by
  have newest : g.latest = last := by
    have latest := groups.latest
    rw [owns, h.latest_last ends] at latest
    exact (Option.some.inj latest).symm
  refine ⟨?_, newest⟩
  have member : g ∈ r.listHistory filter := (h.mem_listHistory once).mpr ⟨groups, selected⟩
  have decreasing : (r.listHistory filter).Pairwise _ := h.listHistory_decreasing once
  cases listed : r.listHistory filter with
  | nil => simp [listed] at member
  | cons first rest =>
    rw [listed] at member decreasing
    rcases List.mem_cons.mp member with rfl | behind
    · rfl
    · -- Nothing stands in front of the event that was recorded last.
      have newer := List.rel_of_pairwise_cons decreasing behind
      have shown : first ∈ r.listHistory filter := listed ▸ List.mem_cons_self
      obtain ⟨groups', _⟩ := (h.mem_listHistory once).mp shown
      have known := (HistoryLog.latest_of_traced h.traced groups'.latest).1
      have bound := h.sequence_le_last known ends
      rw [newest] at newer
      omega

/-- The listing of a registry shows each selected task exactly once and no other one. The later the latest
event of a task was recorded, the further in front the task stands, so that the one with the last event of
all comes first. Each task comes with its latest event, which tells its status, at the head of its whole
timeline. -/
theorem listing_shows_selected_tasks_by_recency (h : r.Reachable) (filter : HistoryFilter) :
    ((r.listHistory filter).map (·.task)).Nodup ∧
    (∀ t, t ∈ (r.listHistory filter).map (·.task) ↔ t ∈ r.tasks ∧ filter.Selects t) ∧
    ((r.listHistory filter).Pairwise fun first second => second.latest.sequence < first.latest.sequence) ∧
    (∀ last, r.history.events.getLast? = some last → ∀ t ∈ r.tasks, t.id = last.task → filter.Selects t →
      ∃ g, (r.listHistory filter).head? = some g ∧ g.task = t ∧ g.latest = last) ∧
    ∀ g ∈ r.listHistory filter, g.latest.status = g.task.status ∧ g.events.head? = some g.latest ∧
      g.events = (r.history.events.filter (·.task = g.task.id)).reverse := by
  have documented := h.documented
  have once := h.indexedOnce
  have decreasing : (r.listHistory filter).Pairwise _ := documented.listHistory_decreasing once
  refine ⟨?_, fun t => ⟨?_, ?_⟩, decreasing, ?_, ?_⟩
  · -- Two groups of one task would have one latest event.
    rw [List.Nodup, List.pairwise_map]
    refine decreasing.imp_of_mem ?_
    intro a b here there newer same
    obtain ⟨first, _⟩ := (documented.mem_listHistory once).mp here
    obtain ⟨second, _⟩ := (documented.mem_listHistory once).mp there
    obtain rfl := first.unique second same
    omega
  · intro listed
    obtain ⟨g, member, rfl⟩ := List.mem_map.mp listed
    obtain ⟨groups, selected⟩ := (documented.mem_listHistory once).mp member
    exact ⟨groups.task, selected⟩
  · rintro ⟨member, selected⟩
    obtain ⟨g, groups, rfl, _⟩ := documented.exists_groups member
    exact List.mem_map_of_mem ((documented.mem_listHistory once).mpr ⟨groups, selected⟩)
  · intro last ends t member owns selected
    obtain ⟨g, groups, rfl, _⟩ := documented.exists_groups member
    obtain ⟨head, newest⟩ := documented.head?_listHistory once ends groups owns selected
    exact ⟨g, head, rfl, newest⟩
  · intro g member
    obtain ⟨groups, _⟩ := (documented.mem_listHistory once).mp member
    obtain ⟨status, newest⟩ := documented.status_of_groups groups
    exact ⟨status, newest, groups.events.trans (documented.traced.timeline g.task.id)⟩

/-- Two tasks are created at times that run backwards, and the second one starts at the earliest time of all:
since that was recorded last, it heads the listing. The first one is still queued. The text `FILINGS` selects
the first one alone, and not the one for news. -/
theorem listing_under_a_clock_that_goes_back :
    ∃ r : Registry, r.Reachable ∧
      (r.listHistory .any).map (fun g => (g.task.id, g.latest.sequence, g.latest.timestamp)) =
        [(⟨.ofNat 2⟩, 2, ⟨5, 0⟩), (⟨.ofNat 1⟩, 0, ⟨9, 0⟩)] ∧
      (r.listHistory .any).Pairwise (fun first second => second.latest.sequence < first.latest.sequence) ∧
      (r.listHistory ⟨[.queued, .running], some "FILINGS"⟩).map (fun g => (g.task.id, g.task.scope)) =
        [(⟨.ofNat 1⟩, .sources ["filings"])] ∧
      (∀ g ∈ r.listHistory ⟨[.queued, .running], some "FILINGS"⟩, g.task.scope ≠ .sources ["news"]) ∧
      ((r.listHistory ⟨[.queued], some "FILINGS"⟩).map (·.task)).Nodup ∧
      ∀ t, t ∈ (r.listHistory ⟨[.queued], some "FILINGS"⟩).map (·.task) ↔
        t ∈ r.tasks ∧ HistoryFilter.Selects ⟨[.queued], some "FILINGS"⟩ t := by
  have r₀ : Reachable .empty := .refl
  have r₁ := Leads.call (.submit ⟨.ofNat 1⟩ ⟨.sources ["filings"], "ops", none, none, none⟩ ⟨9, 0⟩) r₀ (by decide)
  have r₂ := Leads.call (.submit ⟨.ofNat 2⟩ ⟨.sources ["news"], "ops", none, none, none⟩ ⟨5, 0⟩) r₁ (by decide)
  have r₃ := Leads.call (.markRunning ⟨.ofNat 2⟩ none ⟨2, 0⟩) r₂ trivial
  obtain ⟨_, _, decreasing, _, _⟩ := listing_shows_selected_tasks_by_recency r₃ .any
  obtain ⟨once, selected, _⟩ := listing_shows_selected_tasks_by_recency r₃ ⟨[.queued], some "FILINGS"⟩
  have sorted : ([(0, ⟨.ofNat 1⟩), (2, ⟨.ofNat 2⟩)] : List (Nat × TaskId)).mergeSort
      (fun a b => decide (b.1 ≤ a.1)) = [(2, ⟨.ofNat 2⟩), (0, ⟨.ofNat 1⟩)] := by
    simp [List.mergeSort]
  refine ⟨_, r₃, ?_, decreasing, ?_, ?_, once, selected⟩ <;>
    rw [listHistory, HistoryLog.tasksByRecency_eq, show HistoryLog.newest _ =
      [(0, ⟨.ofNat 1⟩), (2, ⟨.ofNat 2⟩)] by decide +kernel, sorted] <;> decide +kernel

end Registry

end Reindexing
