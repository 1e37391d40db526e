import Reindexing.Proofs.Engine.Reports
import Reindexing.Proofs.Engine.Setup
import Reindexing.Proofs.Queue.Settlement

/-!
# Outcomes of independent tasks

Two tasks whose scopes have different labels report their outcomes in either order.
A `Station` is what a report reads and writes besides the draw: `report` changes it
in one step, and `reports_of_running` shows that the engine makes just this step for
every running task. With a clock that stands still the two orders then differ in the
order of events, hence in their numbers, and in which new entry is created first,
hence in the identifiers that the new entries get.
-/
namespace Reindexing

/-- What a report of an outcome reads and writes in an engine, but for the random draws. -/
structure Station where
  registry : Registry
  queue : Queue
  sampleCap : Nat
  linker : TraceLinker
  surroundings : Surroundings
  clock : Nat → Instant
  entryIds : Nat → EntryId
  readings : Nat
  /-- How many identifiers were given to entries. -/
  entries : Nat

namespace Station

def now (s : Station) : Instant := s.clock s.readings

/-- The task as a report leaves it. -/
def finished (s : Station) (t : Task) (o : Outcome) : Task := t.ended (o.track s.sampleCap) s.now

/-- The station after the end of a task is noted, before anything happens in the queue. -/
def noting (s : Station) (t : Task) (o : Outcome) : Station :=
  { s with
    readings := s.readings + 1
    registry := s.registry.noted (s.finished t o) (t.endTime s.now) (s.linker.link s.surroundings.context none) }

/-- The station after the queue has settled an outcome. -/
def settling (s : Station) (done : Task) (now : Instant) (draw : Nat) : Station :=
  { s with
    queue := s.queue.settled done now (s.entryIds s.entries) draw
    entries := if s.queue.opensFor done then s.entries + 1 else s.entries }

/-- The station after a report. -/
def report (s : Station) (t : Task) (o : Outcome) (draw : Nat) : Station :=
  (s.noting t o).settling (s.finished t o) s.now draw

end Station

namespace Engine

def station (e : Engine) : Station :=
  ⟨e.registry, e.queue, e.sampleCap, e.linker, e.surroundings, e.supply.clock, e.supply.entryIds,
    e.supply.readings, e.supply.entries⟩

/-! ### What leaves the station alone -/

section frame
variable (e : Engine)

@[simp] theorem station_tell (event : LogEvent) : (e.tell event).station = e.station := rfl
@[simp] theorem station_mapMetrics (f : Metrics → Metrics) : (e.mapMetrics f).station = e.station := rfl
@[simp] theorem station_countRefusal (r : Refusal) : (e.countRefusal r).station = e.station := rfl
@[simp] theorem station_takeDraw : e.takeDraw.station = e.station := rfl
@[simp] theorem station_showQueueDepth : e.showQueueDepth.station = e.station := rfl
@[simp] theorem station_showRunning : e.showRunning.station = e.station := rfl
@[simp] theorem station_withRegistry (registry : Registry) :
    { e with registry }.station = { e.station with registry } := rfl
@[simp] theorem station_withQueue (queue : Queue) :
    { e with queue }.station = { e.station with queue } := rfl

theorem station_now : e.now.2.station = { e.station with readings := e.station.readings + 1 } := rfl

@[simp] theorem station_record (record : AuditRecord) : (e.record record).station = e.station :=
  apply_record station (fun _ _ _ _ _ => rfl) e record

@[simp] theorem station_recordTransition (t : Transition) :
    (e.recordTransition t).station = e.station := e.station_record _

@[simp] theorem station_recordMutation (m : Mutation) :
    (e.recordMutation m).station = e.station := e.station_record _

@[simp] theorem station_tellTruncation (o : Outcome) : (e.tellTruncation o).station = e.station :=
  apply_tellTruncation station (fun _ _ => rfl) e o

end frame

/-! ### Settling an outcome -/

section
variable {e : Engine} {done : Task} {now : Instant}

/-- The entry that a task retried has the label of the task, if it is still there. -/
def KeepsLabel (e : Engine) (done : Task) : Prop :=
  ∀ q ∈ e.queue.entries, done.retryOf = some q.id → q.scope.label = done.scope.label

theorem resolveRetry_of_absent (absent : ∀ id, done.retryOf = some id → e.queue.find? id = none) :
    (e.resolveRetry done now).station = e.station := by
  cases retried : done.retryOf with
  | none => simp only [resolveRetry, retried]
  | some id =>
    simp only [resolveRetry, retried, Queue.resolve, absent id retried, station_withQueue]
    rfl

/-- A task whose entry is gone is a failure of its label like any other. -/
theorem routeFailure_of_absent (absent : ∀ id, done.retryOf = some id → e.queue.find? id = none)
    (now : Instant) :
    ∃ told : Engine, told.books = e.books ∧ told.station = e.station ∧
      e.routeFailure done now = told.enqueue done now := by
  rcases routeFailure_of_free (Option.bind_eq_none_iff.mpr absent) now with route | ⟨r, route⟩
  · exact ⟨e, rfl, rfl, route⟩
  · exact ⟨e.countRefusal r, rfl, rfl, route⟩

/-- A failure that is no failed retry opens the entry of its label, or updates it. -/
theorem enqueue_settles (sound : e.books.Sound) (failed : done.status = .failed)
    (other : ∀ q, e.station.queue.findByScope done.scope = some q → done.retryOf ≠ some q.id) (now : Instant) :
    ∃ after m draw, e.enqueue done now = (after, .ok m) ∧ after.station = e.station.settling done now draw := by
  cases located : e.station.queue.findByScope done.scope with
  | none =>
    have label : e.queue.idOfLabel? done.scope.label = none := by
      refine Option.eq_none_iff_forall_ne_some.mpr fun id known => ?_
      obtain ⟨q, found, same⟩ := sound.find?_of_label known
      cases located.symm.trans ((sound.findByScope_iff _ q).mpr ⟨(Queue.mem_of_find? found).1, same⟩)
    have accepted : e.queue.enqueue done .auto now e.nextEntryId e.nextDraw = _ :=
      Queue.enqueue_of_new_label failed label
    simp only [enqueue, accepted, if_true]
    refine ⟨_, _, e.nextDraw, rfl, ?_⟩
    simp only [Station.settling, Queue.settled, Queue.entryAfter, Queue.opensFor, located, failed, if_true]
    rfl
  | some q =>
    obtain ⟨member, same⟩ := (sound.findByScope_iff done.scope q).mp located
    have label : e.queue.idOfLabel? done.scope.label = some q.id := by
      rw [← same]
      exact sound.idOfLabel?_of_mem member
    have accepted : e.queue.enqueue done .auto now e.nextEntryId e.nextDraw = _ :=
      Queue.enqueue_of_label failed label
    rw [show e.queue.find? q.id = some q from sound.find?_of_mem member] at accepted
    simp only [enqueue, accepted, reduceCtorEq, if_false]
    refine ⟨_, _, e.nextDraw, rfl, ?_⟩
    simp only [Station.settling, Queue.settled, Queue.entryAfter, Queue.opensFor, located, failed,
      other q located, if_true, if_false]
    rfl

/-- The outcome of a task that retried no entry, or one that is gone. -/
theorem settleQueue_of_absent (sound : e.books.Sound)
    (absent : ∀ id, done.retryOf = some id → e.queue.find? id = none) (now : Instant) :
    ∃ after draw, e.settleQueue done now = (after, .ok ()) ∧
      after.station = e.station.settling done now draw := by
  have known : ∀ q, e.station.queue.findByScope done.scope = some q → q ∈ e.queue.entries := fun q located =>
    ((sound.findByScope_iff done.scope q).mp located).1
  have other : ∀ q, e.station.queue.findByScope done.scope = some q → done.retryOf ≠ some q.id := by
    intro q located retried
    cases (absent q.id retried).symm.trans (sound.find?_of_mem (known q located))
  by_cases failed : done.status = .failed
  · obtain ⟨told, books, same, route⟩ := routeFailure_of_absent absent now
    rw [← books] at sound
    rw [← same] at other
    obtain ⟨after, m, draw, result, station⟩ := enqueue_settles sound failed other now
    refine ⟨after.recordMutation m, draw, settleQueue_of_route failed (route.trans result), ?_⟩
    rw [station_recordMutation, station, same]
  · refine ⟨e.resolveRetry done now, 0, by simp only [settleQueue, failed, if_false], ?_⟩
    rw [resolveRetry_of_absent absent]
    cases located : e.station.queue.findByScope done.scope with
    | none =>
      simp only [Station.settling, Queue.settled, Queue.entryAfter, Queue.opensFor, located, failed, if_false]
      rfl
    | some q =>
      have stays : (e.station.queue.noteOverflow false).replace q = e.station.queue :=
        Queue.replace_self sound.unique_ids (known q located)
      simp only [Station.settling, Queue.settled, Queue.entryAfter, Queue.opensFor, located, failed,
        other q located, if_false, decide_false, Bool.false_and, stays]
      rfl

/-- The outcome of the retry of an entry that is still there. -/
theorem settleQueue_of_retried {q : QueueEntry} (found : e.queue.find? q.id = some q)
    (located : e.station.queue.findByScope done.scope = some q) (retried : done.retryOf = some q.id)
    (now : Instant) :
    ∃ after draw, e.settleQueue done now = (after, .ok ()) ∧
      after.station = e.station.settling done now draw := by
  by_cases failed : done.status = .failed
  · have records : e.queue.recordRetryFailure q.id done now e.nextDraw = _ :=
      Queue.recordRetryFailure_eq ..
    rw [found] at records
    have own : done.retryOf.bind e.queue.find? = some q := by rw [retried, Option.bind_some, found]
    refine ⟨_, e.nextDraw, settleQueue_of_route failed (routeFailure_of_own own records), ?_⟩
    rw [station_recordMutation, station_tell, station_takeDraw, station_withQueue]
    simp only [Station.settling, Queue.settled, Queue.entryAfter, Queue.opensFor, located, retried, failed,
      if_true]
    rfl
  · refine ⟨e.resolveRetry done now, 0, by simp only [settleQueue, failed, if_false], ?_⟩
    simp only [resolveRetry, retried, Queue.resolve, found, station_recordMutation]
    simp only [Station.settling, Queue.settled, Queue.entryAfter, Queue.opensFor, located, retried, failed,
      if_true, if_false]
    rfl

/-- The queue settles an outcome in one step, whichever way it takes. -/
theorem settleQueue_settles (sound : e.books.Sound) (keeps : e.KeepsLabel done) (now : Instant) :
    ∃ after draw, e.settleQueue done now = (after, .ok ()) ∧
      after.station = e.station.settling done now draw := by
  by_cases there : ∃ q ∈ e.queue.entries, done.retryOf = some q.id
  · obtain ⟨q, member, retried⟩ := there
    have located := (sound.findByScope_iff done.scope q).mpr ⟨member, keeps q member retried⟩
    exact settleQueue_of_retried (sound.find?_of_mem member) located retried now
  · refine settleQueue_of_absent sound (fun id retried => ?_) now
    refine Option.eq_none_iff_forall_ne_some.mpr fun q found => there ?_
    obtain ⟨member, rfl⟩ := Queue.mem_of_find? found
    exact ⟨q, member, retried⟩

end

/-! ### One report -/

section
variable {e : Engine} {t : Task}

theorem station_settling (e : Engine) (o : Outcome) (registry : Registry) (finished : Transition) :
    (e.settling o registry finished).station =
      { e.station with readings := e.station.readings + 1, registry } := by
  simp only [settling, station_mapMetrics, station_recordTransition, station_tell, station_withRegistry,
    station_now, station_tellTruncation]

/-- The report of a running task notes its end, and goes on in the queue. -/
theorem settles_of_running (found : e.registry.find? t.id = some t) (running : t.status = .running)
    (o : Outcome) :
    ∃ between, Settles e t.id o (e.station.finished t o) between ∧ between.station = e.station.noting t o := by
  have link : (e.tellTruncation o).now.2.link none = e.linker.link e.surroundings.context none :=
    congrArg (fun s : Station => s.linker.link s.surroundings.context none) (e.station_tellTruncation o)
  obtain ⟨event, accepted⟩ := Registry.recordOutcome_notes found running (o.track e.sampleCap)
    ((e.tellTruncation o).now.2.link none) e.now.1
  refine ⟨_, settles_of_ok accepted, ?_⟩
  rw [station_settling, link]
  rfl

/-- The report of a running task succeeds and changes the station in one step. -/
theorem reports_of_running (coherent : Coherent e.stores.view []) (task : t ∈ e.registry.tasks)
    (running : t.status = .running) (o : Outcome) :
    ∃ after draw, e.recordOutcome t.id o = (after, .ok (e.station.finished t o)) ∧
      after.station = e.station.report t o draw := by
  have found := Registry.find?_of_mem coherent.issued.unique.tasks task
  obtain ⟨between, settles, noted⟩ := settles_of_running found running o
  have sound := sound_books coherent
  rw [← settles.books] at sound
  have keeps : between.KeepsLabel (e.station.finished t o) := by
    intro q member retried
    have known : q ∈ e.queue.entries := by
      rwa [show between.queue = e.queue from congrArg Station.queue noted] at member
    rw [Station.finished, Task.ended_retryOf] at retried
    rw [Station.finished, Task.ended_scope,
      coherent.linked.scope t task q.standing (List.mem_map_of_mem known) retried]
    rfl
  obtain ⟨after, draw, settled, station⟩ := settleQueue_settles sound keeps e.now.1
  refine ⟨_, draw, settles.accepts after settled, ?_⟩
  rw [station_showRunning, station_showQueueDepth, station, noted]
  rfl

end

/-! ### Two reports -/

/-- The report of a running task, with the engine that it leads to. -/
structure Concludes (e : Engine) (t : Task) (o : Outcome) (after : Engine) : Prop where
  result : e.recordOutcome t.id o = (after, .ok (e.station.finished t o))
  station : ∃ draw, after.station = e.station.report t o draw
  sound : after.Sound

section
variable {e first both second reversed : Engine} {t u : Task} {o p : Outcome}

theorem concludes (before : e.Sound) (task : t ∈ e.registry.tasks) (running : t.status = .running)
    (o : Outcome) (distinct : (e.recordOutcome t.id o).1.stores.Distinct) : ∃ after, e.Concludes t o after := by
  obtain ⟨after, draw, result, station⟩ := reports_of_running before.coherent task running o
  have completes := e.recordOutcome_completes t.id o
  rw [result] at completes distinct
  exact ⟨after, result, ⟨draw, station⟩, (before.completes (by simp [Section.isOpening]) completes distinct).1⟩

namespace Concludes

theorem registry (ends : e.Concludes t o first) : first.registry = e.registry.noted (e.station.finished t o)
    (t.endTime e.station.now) (e.linker.link e.surroundings.context none) := by
  obtain ⟨draw, station⟩ := ends.station
  exact congrArg Station.registry station

theorem settles (ends : e.Concludes t o first) : ∃ draw, e.books.Settles (e.station.finished t o)
    e.station.now e.nextEntryId draw first.books := by
  obtain ⟨draw, station⟩ := ends.station
  exact ⟨draw, sound_books ends.sound.coherent, congrArg Station.queue station⟩

/-- Other tasks stay as they are. -/
theorem task_stays (ends : e.Concludes t o first) (other : u.id ≠ t.id) (task : u ∈ e.registry.tasks) :
    u ∈ first.registry.tasks := by
  rw [ends.registry]
  refine Keyed.mem_replaceBy.mpr (.inr ⟨task, ?_⟩)
  rw [Station.finished, Task.ended_id]
  exact other

/-- While the clock stands still, what a report makes of a task does not depend on other reports. -/
theorem finished_eq (ends : e.Concludes t o first) (still : e.supply.clock (e.supply.readings + 1) = e.station.now)
    (u : Task) (p : Outcome) :
    first.station.now = e.station.now ∧ first.station.finished u p = e.station.finished u p := by
  obtain ⟨draw, station⟩ := ends.station
  have now : first.station.now = e.station.now := by
    rw [station]
    exact still
  refine ⟨now, ?_⟩
  rw [Station.finished, now, station]
  rfl

theorem link_eq (ends : e.Concludes t o first) :
    first.linker.link first.surroundings.context none = e.linker.link e.surroundings.context none := by
  obtain ⟨draw, station⟩ := ends.station
  exact congrArg (fun s : Station => s.linker.link s.surroundings.context none) station

/-- A report hands out an identifier if it opens an entry. -/
theorem entries_eq (ends : e.Concludes t o first) : first.supply.entryIds = e.supply.entryIds ∧
    first.supply.entries =
      if e.queue.opensFor (e.station.finished t o) then e.supply.entries + 1 else e.supply.entries := by
  obtain ⟨draw, station⟩ := ends.station
  exact ⟨congrArg Station.entryIds station, congrArg Station.entries station⟩

end Concludes

/-- Two running tasks conclude in turn. -/
theorem conclude_in_turn (before : e.Sound) (task_t : t ∈ e.registry.tasks) (task_u : u ∈ e.registry.tasks)
    (runs_t : t.status = .running) (runs_u : u.status = .running) (other : u.id ≠ t.id) (o p : Outcome)
    (distinct : ((e.perform (.recordOutcome t.id o)).perform (.recordOutcome u.id p)).supply.Distinct) :
    ∃ first both, e.Concludes t o first ∧ first.Concludes u p both ∧ both.stores.Distinct := by
  have distinct_first := (perform_completes _ (.recordOutcome u.id p)).distinct_before distinct
  obtain ⟨first, ends_t⟩ := concludes before task_t runs_t o distinct_first
  have performed : e.perform (.recordOutcome t.id o) = first := congrArg Prod.fst ends_t.result
  rw [performed] at distinct
  obtain ⟨both, ends_u⟩ := concludes ends_t.sound (ends_t.task_stays other task_u) runs_u p distinct
  have after : first.perform (.recordOutcome u.id p) = both := congrArg Prod.fst ends_u.result
  rw [after] at distinct
  exact ⟨first, both, ends_t, ends_u, distinct⟩

/-- Notes of two tasks that conclude in turn do not depend on the order. -/
theorem alike_of_turns (before : e.Sound) (other : u.id ≠ t.id)
    (still : e.supply.clock (e.supply.readings + 1) = e.station.now)
    (ends_t : e.Concludes t o first) (then_u : first.Concludes u p both)
    (ends_u : e.Concludes u p second) (then_t : second.Concludes t o reversed) :
    both.registry.Alike reversed.registry := by
  obtain ⟨now_first, finished_u⟩ := ends_t.finished_eq still u p
  obtain ⟨now_second, finished_t⟩ := ends_u.finished_eq still t o
  rw [then_u.registry, then_t.registry, finished_u, finished_t, now_first, now_second, ends_t.link_eq,
    ends_u.link_eq, ends_t.registry, ends_u.registry]
  refine Registry.noted_comm before.documented.traced ?_
  rw [Station.finished, Station.finished, Task.ended_id, Task.ended_id]
  exact Ne.symm other

/-- Where both of two reports open an entry, the identifiers of both are new. -/
theorem unused_of_turns (distinct : both.stores.Distinct) (ends_t : e.Concludes t o first)
    (then_u : first.Concludes u p both)
    (opens_t : e.queue.opensFor (e.station.finished t o) = true)
    (opens_u : first.queue.opensFor (first.station.finished u p) = true) :
    e.nextEntryId ∉ e.stores.entryIds ∧ first.nextEntryId ∉ e.stores.entryIds := by
  obtain ⟨ids_first, count_first⟩ := ends_t.entries_eq
  obtain ⟨ids_both, count_both⟩ := then_u.entries_eq
  rw [opens_t, if_pos rfl] at count_first
  rw [opens_u, if_pos rfl] at count_both
  have given : both.stores.entryIds = e.stores.entryIds ++ [e.nextEntryId] ++ [first.nextEntryId] := by
    simp [stores, nextEntryId, count_both, count_first, ids_both, ids_first, List.range_succ]
  have nodup := distinct.2
  rw [given] at nodup
  have nodup_first := (List.nodup_append.mp nodup).1
  exact ⟨Keyed.not_mem_of_nodup_append nodup_first, fun member =>
    Keyed.not_mem_of_nodup_append nodup (List.mem_append_left _ member)⟩

/-- The queue settles two outcomes under different labels in either order. -/
theorem renames_of_turns (before : e.Sound) (plain : ¬ (0.0 : Float) < e.queue.policy.jitter)
    (still : e.supply.clock (e.supply.readings + 1) = e.station.now)
    (apart : t.scope.label ≠ u.scope.label) (distinct : both.stores.Distinct)
    (ends_t : e.Concludes t o first) (then_u : first.Concludes u p both)
    (ends_u : e.Concludes u p second) (then_t : second.Concludes t o reversed) :
    ∃ ρ : Equiv.Perm EntryId, (∀ id ∈ e.stores.entryIds, ρ id = id) ∧
      both.queue.Renames ρ reversed.queue := by
  have sound := sound_books before.coherent
  obtain ⟨now_first, finished_u⟩ := ends_t.finished_eq still u p
  obtain ⟨now_second, finished_t⟩ := ends_u.finished_eq still t o
  have apart_done : (e.station.finished t o).scope.label ≠ (e.station.finished u p).scope.label := by
    rw [Station.finished, Station.finished, Task.ended_scope, Task.ended_scope]
    exact apart
  obtain ⟨_, settles_t⟩ := ends_t.settles
  obtain ⟨_, settles_u⟩ := ends_u.settles
  obtain ⟨_, settles_both⟩ := then_u.settles
  obtain ⟨_, settles_reversed⟩ := then_t.settles
  rw [now_first, finished_u] at settles_both
  rw [now_second, finished_t] at settles_reversed
  -- Each order gives the first identifier to the first entry that it opens.
  have next_first : first.nextEntryId = if e.queue.opensFor (e.station.finished t o) then
      e.supply.entryIds (e.supply.entries + 1) else e.nextEntryId := by
    rw [nextEntryId, ends_t.entries_eq.1, ends_t.entries_eq.2, apply_ite e.supply.entryIds]
    rfl
  have next_second : second.nextEntryId = if e.queue.opensFor (e.station.finished u p) then
      e.supply.entryIds (e.supply.entries + 1) else e.nextEntryId := by
    rw [nextEntryId, ends_u.entries_eq.1, ends_u.entries_eq.2, apply_ite e.supply.entryIds]
    rfl
  obtain ⟨ρ, fixed, opened_t, opened_u⟩ := EntryId.exists_renaming e.stores.entryIds e.nextEntryId
    (e.supply.entryIds (e.supply.entries + 1)) (e.queue.opensFor (e.station.finished t o))
    (e.queue.opensFor (e.station.finished u p)) (by
      intro opens_t opens_u
      have opens := settles_t.opensFor sound apart_done
      rw [← finished_u] at opens
      have unused := unused_of_turns distinct ends_t then_u opens_t (opens.trans (finished_u ▸ opens_u))
      rw [next_first, opens_t] at unused
      exact unused)
  rw [← next_second] at opened_t
  rw [← next_first] at opened_u
  exact ⟨ρ, fixed, Books.settled_comm sound plain apart_done settles_t settles_both settles_u
    settles_reversed ρ.injective fixed opened_t opened_u⟩

end

/-- Engines that differ at most in the numbers of events, and in the names of the entries that were
created since they were `start`. -/
structure Agree (start e other : Engine) : Prop where
  registry : e.registry.Alike other.registry
  queue : ∃ ρ : Equiv.Perm EntryId, (∀ id ∈ start.stores.entryIds, ρ id = id) ∧
    e.queue.Renames ρ other.queue

/-- The outcomes of independent tasks commute. Reported in either order, the outcomes of two running tasks
whose scopes have different labels are accepted with the same answers; tasks and timelines are then the
same, and so are the entries of the queue, but for the names of those that the reports created. -/
theorem independent_outcomes_commute {e : Engine} (h : e.Reachable)
    (plain : ¬ (0.0 : Float) < e.queue.policy.jitter)
    (still : ∀ n, e.supply.readings ≤ n → e.supply.clock n = e.now.1) {t u : Task}
    (task_t : t ∈ e.registry.tasks) (task_u : u ∈ e.registry.tasks) (runs_t : t.status = .running)
    (runs_u : u.status = .running) (apart : t.scope.label ≠ u.scope.label) (o p : Outcome)
    (distinct : ((e.perform (.recordOutcome t.id o)).perform (.recordOutcome u.id p)).supply.Distinct)
    (reversed_distinct :
      ((e.perform (.recordOutcome u.id p)).perform (.recordOutcome t.id o)).supply.Distinct) :
    ∃ first both second reversed done_t done_u,
      e.recordOutcome t.id o = (first, .ok done_t) ∧ first.recordOutcome u.id p = (both, .ok done_u) ∧
      e.recordOutcome u.id p = (second, .ok done_u) ∧
      second.recordOutcome t.id o = (reversed, .ok done_t) ∧ Agree e both reversed := by
  have other : u.id ≠ t.id := by
    intro same
    obtain rfl := Keyed.eq_of_key h.sound.documented.unique task_u task_t same
    exact apart rfl
  have still : e.supply.clock (e.supply.readings + 1) = e.station.now := still _ (Nat.le_succ _)
  obtain ⟨first, both, ends_t, then_u, distinct⟩ :=
    conclude_in_turn h.sound task_t task_u runs_t runs_u other o p distinct
  obtain ⟨second, reversed, ends_u, then_t, _⟩ :=
    conclude_in_turn h.sound task_u task_t runs_u runs_t (Ne.symm other) p o reversed_distinct
  have answer_u := then_u.result
  have answer_t := then_t.result
  rw [(ends_t.finished_eq still u p).2] at answer_u
  rw [(ends_u.finished_eq still t o).2] at answer_t
  exact ⟨first, both, second, reversed, _, _, ends_t.result, answer_u, ends_u.result, answer_t,
    alike_of_turns h.sound other still ends_t then_u ends_u then_t,
    renames_of_turns h.sound plain still apart distinct ends_t then_u ends_u then_t⟩

/-- An operator dismisses an entry while its retry runs, and another scope runs for the first time. When
both tasks fail, two entries are created, and the order decides which of them gets which identifier. -/
theorem failures_of_a_dismissed_retry_and_of_another_scope_commute :
    ∃ e both reversed : Engine, e.Reachable ∧ e.queue.entries = [] ∧
      (∃ t ∈ e.registry.tasks, ∃ u ∈ e.registry.tasks, t.retryOf = some ⟨.ofNat 0⟩ ∧ u.retryOf = none ∧
        ∃ first second done_t done_u,
          e.recordOutcome t.id (.failure "E1" none) = (first, .ok done_t) ∧
          first.recordOutcome u.id (.failure "E2" none) = (both, .ok done_u) ∧
          e.recordOutcome u.id (.failure "E2" none) = (second, .ok done_u) ∧
          second.recordOutcome t.id (.failure "E1" none) = (reversed, .ok done_t)) ∧
      Agree e both reversed ∧
      both.queue.entries.map (fun q => (q.scope, q.id)) =
        [(.sources ["filings"], ⟨.ofNat 1⟩), (.sources ["news"], ⟨.ofNat 2⟩)] ∧
      reversed.queue.entries.map (fun q => (q.scope, q.id)) =
        [(.sources ["news"], ⟨.ofNat 1⟩), (.sources ["filings"], ⟨.ofNat 2⟩)] := by
  let config : Config := { Config.default with retry := ⟨3, .ofSeconds 30, .ofSeconds 1800, 0.0⟩ }
  let supply : Supply :=
    ⟨fun _ => .epoch, fun n => ⟨.ofNat n⟩, fun n => ⟨.ofNat n⟩, fun _ => 0, 0, 0, 0, 0⟩
  let start := Engine.ofConfig config (.inMemory 100) .empty .parked supply
  let submitted := start.perform (.submit ⟨.sources ["filings"], "ops", none, none⟩)
  let failed := submitted.perform (.recordOutcome ⟨.ofNat 0⟩ (.failure "E0" none))
  let manual := failed.perform (.setRetryMode ⟨.ofNat 0⟩ .manual "ops")
  let retried := manual.perform (.retry ⟨.ofNat 0⟩ ⟨"ops", none, false⟩)
  let dismissed := retried.perform (.remove ⟨.ofNat 0⟩ none)
  let e := dismissed.perform (.submit ⟨.sources ["news"], "ops", none, none⟩)
  have reachable : e.Reachable := ((((((Reachable.start ..).call _ (by decide +kernel)).call _
    (by decide +kernel)).call _ (by decide +kernel)).call _ (by decide +kernel)).call _
    (by decide +kernel)).call _ (by decide +kernel)
  have advances : start.Advances e := (((((start.perform_advances _).trans (submitted.perform_advances _)).trans
    (failed.perform_advances _)).trans (manual.perform_advances _)).trans (retried.perform_advances _)).trans
      (dismissed.perform_advances _)
  have still : ∀ {after : Engine}, start.Advances after →
      ∀ n, after.supply.readings ≤ n → after.supply.clock n = after.now.1 := by
    intro after advances n _
    rw [now, advances.clock_eq]
    rfl
  have plain : ¬ (0.0 : Float) < e.queue.policy.jitter := by decide +kernel
  obtain ⟨t, task_t, u, task_u, runs_t, runs_u, apart, id_t, id_u, retry_t, retry_u⟩ :
      ∃ t ∈ e.registry.tasks, ∃ u ∈ e.registry.tasks, t.status = .running ∧ u.status = .running ∧
        t.scope.label ≠ u.scope.label ∧ t.id = ⟨.ofNat 1⟩ ∧ u.id = ⟨.ofNat 2⟩ ∧
        t.retryOf = some ⟨.ofNat 0⟩ ∧ u.retryOf = none := by
    decide +kernel
  obtain ⟨first, both, second, reversed, done_t, done_u, ends_t, then_u, ends_u, then_t, agree⟩ :=
    independent_outcomes_commute reachable plain (still advances) task_t task_u runs_t runs_u apart
      (.failure "E1" none) (.failure "E2" none) (by rw [id_t, id_u]; decide +kernel)
      (by rw [id_t, id_u]; decide +kernel)
  refine ⟨e, both, reversed, reachable, by decide +kernel, ⟨t, task_t, u, task_u, retry_t, retry_u, first,
    second, done_t, done_u, ends_t, then_u, ends_u, then_t⟩, agree, ?_, ?_⟩
  · obtain rfl := congrArg Prod.fst ends_t
    obtain rfl := congrArg Prod.fst then_u
    rw [id_t, id_u]
    decide +kernel
  · obtain rfl := congrArg Prod.fst ends_u
    obtain rfl := congrArg Prod.fst then_t
    rw [id_t, id_u]
    decide +kernel

end Engine

end Reindexing
