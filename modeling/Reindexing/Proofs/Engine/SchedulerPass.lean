import Reindexing.Proofs.Engine.Retrying
import Reindexing.Proofs.Engine.Setup
import Reindexing.Proofs.Engine.Watchdog

/-!
# A pass of the scheduler

A pass tries each entry that is due, in turn. A retry takes a scope, which may keep
later entries of the same pass from theirs; but an entry is tried once only, and
retries of other entries do not touch it. `Retries` says what is left behind when
some entries were retried and others passed over; one retry has it, and a pass has it
of all entries that are due, since tasks are only added on the way and no scope
becomes free again. What is due after a pass was passed over in it, so that its
scope is busy: the engine is `AtRest`, and a second pass finds nothing to do. Retries
give no cooldowns, so that a pass ends the program only where its watchdog does.
-/
namespace Reindexing

/-- The task runs as a retry of the entry. -/
structure Task.RunsFor (t : Task) (s : QueueEntry) (since : Instant) : Prop where
  status : t.status = .running
  retryOf : t.retryOf = some s.id
  scope : t.scope = s.scope
  startedAt : t.startedAt = some since

/-- A task that starts now does not run too long yet. -/
theorem Task.not_overdue_of_started {timeout : Span} {now : Instant} (t : Task)
    (started : t.startedAt = some now) (positive : 0 < timeout.nanos) : ¬ t.IsOverdue timeout now := by
  rintro ⟨_, delta, limit, since, same, reached⟩
  obtain rfl := Option.some.inj (started.symm.trans same)
  rw [Instant.sub_self] at reached
  unfold Span.toDelta? at limit
  split at limit
  · obtain rfl := Option.some.inj limit
    omega
  · cases limit

namespace QueueEntry

/-- The entry while the retry runs that the scheduler started for it. -/
def inRetry (s : QueueEntry) (task : TaskId) (now : Instant) : QueueEntry :=
  { Queue.claimed (s.clearElapsed now) none now with currentTask := some task }

variable (s : QueueEntry) (task : TaskId) (now : Instant)

@[simp] theorem inRetry_id : (s.inRetry task now).id = s.id := s.id_clearElapsed now

@[simp] theorem inRetry_status : (s.inRetry task now).status = .running := rfl

theorem cooldownElapsed_clearElapsed : (s.clearElapsed now).cooldownElapsed now = false := by
  unfold clearElapsed
  split
  · rfl
  · next running => exact Bool.eq_false_iff.mpr running

theorem inRetry_attempts : (s.inRetry task now).attempts = min (s.attempts + 1) Word.max32 :=
  congrArg (fun n => min (n + 1) Word.max32) (s.attempts_clearElapsed now)

/-- When its cooldown has ended, an entry is due. -/
theorem Regular.ready {s : QueueEntry} {budget : Nat} (regular : s.Regular budget)
    (elapsed : s.cooldownElapsed now = true) : s.mode = .auto ∧ s.isEligible now = true := by
  obtain ⟨ending, cools, past⟩ := (Option.any_eq_true _ _).mp elapsed
  obtain ⟨idle, auto, left⟩ := regular.cooling ending cools
  refine ⟨auto, (isEligible_auto auto).mpr ⟨idle, left, fun other same => ?_⟩⟩
  obtain rfl := Option.some.inj (cools.symm.trans same)
  exact of_decide_eq_true past

end QueueEntry

/-- A claim without force takes an eligible entry as it is, but for an ended cooldown. -/
theorem Queue.claim_of_eligible {q : Queue} {id : EntryId} {s : QueueEntry} {now : Instant} (actor : String)
    (note : Option String) (found : q.find? id = some s) (eligible : s.isEligible now = true) :
    ∃ taken, q.claim id actor note false now = (q.replace taken.entry, .ok taken) ∧
      taken.entry = claimed (s.clearElapsed now) note now ∧ taken.previous = s.clearElapsed now ∧
      taken.entry.id = s.id ∧ taken.entry.scope = s.scope := by
  have entry : (claimOf s actor note now).entry = claimed (s.clearElapsed now) note now :=
    congrArg (claimed · note now) (QueueEntry.takenUp_of_isEligible eligible)
  refine ⟨claimOf s actor note now, ?_, entry, rfl, ?_, ?_⟩
  · rw [claim_of_idle found (QueueEntry.idle_of_isEligible eligible), eligible, Bool.true_or, if_pos rfl]
  · rw [entry]
    exact s.id_clearElapsed now
  · rw [entry]
    exact s.scope_clearElapsed now

namespace Engine

variable {e : Engine} {id : EntryId} {s : QueueEntry} {now : Instant}

/-! ### Clocks that stand still -/

/-- The clock shows one time in all readings from one engine to the other. -/
def StandsStill (e after : Engine) (now : Instant) : Prop :=
  ∀ n, e.supply.readings ≤ n → n < after.supply.readings → e.supply.clock n = now

instance (e after : Engine) (now : Instant) : Decidable (StandsStill e after now) :=
  decidable_of_iff (∀ n < after.supply.readings, e.supply.readings ≤ n → e.supply.clock n = now)
    ⟨fun still n from_start until_end => still n until_end from_start,
      fun still n until_end from_start => still n from_start until_end⟩

namespace StandsStill

variable {between after : Engine}

theorem now_eq (still : StandsStill e after now) (advances : e.now.2.Advances after) : e.now.1 = now :=
  still _ (Nat.le_refl _) advances.readings

theorem earlier (still : StandsStill e after now) (advances : between.Advances after) :
    StandsStill e between now := fun n from_start until_between =>
  still n from_start (Nat.lt_of_lt_of_le until_between advances.readings)

theorem later (still : StandsStill e after now) (advances : e.Advances between) :
    StandsStill between after now := by
  intro n from_between until_after
  rw [advances.clock_eq]
  exact still n (Nat.le_trans advances.readings from_between) until_after

end StandsStill

/-! ### The retries of a pass -/

/-- What retries at one time leave behind, parted into those that succeeded and those that did not. -/
structure Retries (e : Engine) (now : Instant) (retried skipped : List EntryId) (after : Engine) : Prop where
  isUp : after.isUp = e.isUp
  tasks : e.registry.tasks <+: after.registry.tasks
  started : ∀ t ∈ after.registry.tasks, t ∈ e.registry.tasks ∨ t.startedAt = some now
  entryIds : after.queue.entries.map (·.id) = e.queue.entries.map (·.id)
  others : ∀ s ∈ e.queue.entries, s.id ∉ retried → s.id ∉ skipped → s ∈ after.queue.entries
  retried : ∀ s ∈ e.queue.entries, s.id ∈ retried → ∃ t ∈ after.registry.tasks,
    (∀ u ∈ e.registry.tasks, u.id ≠ t.id) ∧ t.RunsFor s now ∧
      s.inRetry t.id now ∈ after.queue.entries
  skipped : ∀ s ∈ e.queue.entries, s.id ∈ skipped →
    after.registry.Busy s.scope ∧ (s.clearElapsed now).touch now ∈ after.queue.entries

theorem Retries.refl (e : Engine) (now : Instant) : Retries e now [] [] e where
  isUp := rfl
  tasks := List.prefix_rfl
  started _ member := .inl member
  entryIds := rfl
  others _ member _ _ := member
  retried _ _ listed := absurd listed List.not_mem_nil
  skipped _ _ listed := absurd listed List.not_mem_nil

/-- A scope stays busy when tasks are added. -/
theorem busy_of_grown {r after : Registry} {scope : Scope} (grows : r.tasks <+: after.tasks)
    (busy : r.Busy scope) : after.Busy scope := by
  obtain ⟨t, task, active, overlap⟩ := busy
  exact ⟨t, grows.subset task, active, overlap⟩

/-- Retries of different entries, one after the other. -/
theorem Retries.trans {between after : Engine} {retried skipped more others : List EntryId}
    (first : Retries e now retried skipped between) (second : Retries between now more others after)
    (apart : ∀ id, id ∈ retried ∨ id ∈ skipped → id ∉ more ∧ id ∉ others) :
    Retries e now (retried ++ more) (skipped ++ others) after where
  isUp := second.isUp.trans first.isUp
  tasks := first.tasks.trans second.tasks
  started t member := by
    rcases second.started t member with old | new
    · exact first.started t old
    · exact .inr new
  entryIds := second.entryIds.trans first.entryIds
  others s member not_retried not_skipped := by
    simp only [List.mem_append, not_or] at not_retried not_skipped
    exact second.others s (first.others s member not_retried.1 not_skipped.1) not_retried.2 not_skipped.2
  retried s member listed := by
    by_cases early : s.id ∈ retried
    · obtain ⟨t, task, fresh, runs, entry⟩ := first.retried s member early
      obtain ⟨not_more, not_others⟩ := apart s.id (.inl early)
      refine ⟨t, second.tasks.subset task, fresh, runs, second.others _ entry ?_ ?_⟩
      · rwa [s.inRetry_id]
      · rwa [s.inRetry_id]
    · have late : s.id ∈ more := (List.mem_append.mp listed).resolve_left early
      have waits : s.id ∉ skipped := fun early => (apart s.id (.inr early)).1 late
      obtain ⟨t, task, fresh, runs, entry⟩ := second.retried s (first.others s member early waits) late
      exact ⟨t, task, fun u old => fresh u (first.tasks.subset old), runs, entry⟩
  skipped s member listed := by
    by_cases early : s.id ∈ skipped
    · obtain ⟨busy, entry⟩ := first.skipped s member early
      obtain ⟨not_more, not_others⟩ := apart s.id (.inr early)
      refine ⟨busy_of_grown second.tasks busy, second.others _ entry ?_ ?_⟩
      · rwa [show ((s.clearElapsed now).touch now).id = s.id from s.id_clearElapsed now]
      · rwa [show ((s.clearElapsed now).touch now).id = s.id from s.id_clearElapsed now]
    · have late : s.id ∈ others := (List.mem_append.mp listed).resolve_left early
      have waits : s.id ∉ retried := fun early => (apart s.id (.inl early)).2 late
      exact second.skipped s (first.others s member waits early) late

section
variable (found : e.queue.find? s.id = some s) (eligible : s.isEligible e.now.1 = true)
include found eligible

/-- An eligible entry whose scope is busy is passed over. -/
theorem retryOne_of_busy (busy : e.registry.Busy s.scope) :
    (e.retryOne s.id).2 = false ∧ (e.retryOne s.id).1.registry = e.registry ∧
      (e.retryOne s.id).1.moment = { e.moment with
        queue := e.queue.replace ((s.clearElapsed e.now.1).touch e.now.1)
        readings := e.moment.readings + 1 } := by
  obtain ⟨taken, claimed, _, previous, same, scope⟩ :=
    Queue.claim_of_eligible schedulerActor none found eligible
  obtain ⟨_, _, _, failure⟩ := retry_of_busy (c := ⟨schedulerActor, none, false⟩) claimed (scope ▸ busy)
  obtain ⟨registry, moved⟩ := rolled_back (c := ⟨schedulerActor, none, false⟩) claimed (scope ▸ busy)
  refine ⟨?_, ?_, ?_⟩
  · rw [isOk_retryOne, failure]
    rfl
  · exact (congrArg Stores.registry (e.stores_retryOne s.id)).trans registry
  · rw [moment_retryOne, moved, Queue.release_of_claim found previous same]

/-- An eligible entry whose scope is free is retried. -/
theorem retryOne_of_free (coherent : Coherent e.stores.view []) (free : ¬ e.registry.Busy s.scope)
    (distinct : (e.retryOne s.id).1.stores.Distinct) :
    (e.retryOne s.id).2 = true ∧ ∃ t : Task, t.RunsFor s (e.supply.clock (e.supply.readings + 1)) ∧
      (∀ u ∈ e.registry.tasks, u.id ≠ t.id) ∧
      (e.retryOne s.id).1.registry.tasks = e.registry.tasks ++ [t] ∧
      (e.retryOne s.id).1.moment = { e.moment with
        queue := e.queue.replace (s.inRetry t.id e.now.1), readings := e.moment.readings + 2 } := by
  obtain ⟨taken, claimed, entry, previous, same, scope⟩ :=
    Queue.claim_of_eligible schedulerActor none found eligible
  rw [stores_retryOne] at distinct
  obtain ⟨t, ⟨after, success⟩, ⟨status, retryOf, holds, started⟩, fresh, tasks, moved⟩ :=
    retry_of_free coherent (c := ⟨schedulerActor, none, false⟩) claimed
      (Queue.attach_of_claim found same) (scope ▸ free) distinct
  refine ⟨?_, t, ⟨status, retryOf, holds.trans scope, started⟩, fresh, ?_, ?_⟩
  · rw [isOk_retryOne, success]
    rfl
  · exact (congrArg (·.registry.tasks) (e.stores_retryOne s.id)).trans tasks
  · rw [moment_retryOne, moved, entry]
    rfl

end

/-- One entry is retried or passed over. -/
theorem retryOne_retries (coherent : Coherent e.stores.view []) (member : s ∈ e.queue.entries)
    (eligible : s.isEligible now = true) (still : StandsStill e (e.retryOne s.id).1 now)
    (distinct : (e.retryOne s.id).1.stores.Distinct) :
    Retries e now (if (e.retryOne s.id).2 then [s.id] else []) (if (e.retryOne s.id).2 then [] else [s.id])
      (e.retryOne s.id).1 := by
  have unique := (sound_books coherent).unique_ids
  have found := (sound_books coherent).find?_of_mem member
  obtain rfl := still.now_eq (e.retryOne_advances s.id)
  have itself : ∀ u ∈ e.queue.entries, u.id ∈ [s.id] → u = s := fun u known listed =>
    Keyed.eq_of_key unique known member (List.mem_singleton.mp listed)
  have others : ∀ {new : QueueEntry}, new.id = s.id → ∀ u ∈ e.queue.entries, u.id ∉ [s.id] →
      u ∈ (e.queue.replace new).entries := fun same u known apart =>
    Keyed.mem_replaceBy.mpr (.inr ⟨known, fun clash => apart (List.mem_singleton.mpr (clash.trans same))⟩)
  by_cases busy : e.registry.Busy s.scope
  · obtain ⟨flag, registry, moved⟩ := retryOne_of_busy found eligible busy
    have queue : (e.retryOne s.id).1.queue = e.queue.replace ((s.clearElapsed e.now.1).touch e.now.1) :=
      congrArg (fun m : Moment => m.queue) moved
    have same : ((s.clearElapsed e.now.1).touch e.now.1).id = s.id := s.id_clearElapsed e.now.1
    rw [flag]
    exact {
      isUp := isUp_of_queue queue rfl
      tasks := registry ▸ List.prefix_rfl
      started := fun t task => .inl (registry ▸ task)
      entryIds := by
        rw [queue]
        exact Keyed.map_key_replaceBy _
      others := fun u known _ apart => queue ▸ others same u known apart
      retried := fun _ _ listed => absurd listed List.not_mem_nil
      skipped := by
        intro u known listed
        obtain rfl := itself u known listed
        rw [registry, queue]
        exact ⟨busy, Queue.mem_replace member same.symm⟩ }
  · obtain ⟨flag, t, runs, fresh, tasks, moved⟩ := retryOne_of_free found eligible coherent busy distinct
    have queue : (e.retryOne s.id).1.queue = e.queue.replace (s.inRetry t.id e.now.1) :=
      congrArg (fun m : Moment => m.queue) moved
    have again : e.supply.clock (e.supply.readings + 1) = e.now.1 := by
      refine still _ (Nat.le_succ _) ?_
      exact Nat.lt_of_lt_of_eq (Nat.lt_succ_self _) (congrArg Moment.readings moved).symm
    rw [again] at runs
    rw [flag]
    exact {
      isUp := isUp_of_queue queue rfl
      tasks := tasks ▸ List.prefix_append _ _
      started := by
        intro u task
        rw [tasks] at task
        rcases List.mem_append.mp task with old | new
        · exact .inl old
        · exact .inr (List.mem_singleton.mp new ▸ runs.startedAt)
      entryIds := by
        rw [queue]
        exact Keyed.map_key_replaceBy _
      others := fun u known apart _ => queue ▸ others (s.inRetry_id t.id _) u known apart
      retried := by
        intro u known listed
        obtain rfl := itself u known listed
        refine ⟨t, ?_, fresh, runs, ?_⟩
        · rw [tasks]
          exact List.mem_append_right _ (List.mem_singleton_self t)
        · rw [queue]
          exact Queue.mem_replace member (u.inRetry_id t.id _).symm
      skipped := fun _ _ listed => absurd listed List.not_mem_nil }

/-- Every entry of a list is either retried or passed over, as often as it is listed. -/
theorem retryAll_parts (e : Engine) (ids : List EntryId) :
    ((e.retryAll ids).2.1 ++ (e.retryAll ids).2.2).Perm ids := by
  induction ids generalizing e with
  | nil => exact .refl _
  | cons id rest ih =>
    have tail := ih (e.retryOne id).1
    cases flag : (e.retryOne id).2 with
    | true =>
      simp only [retryAll, flag, if_true, List.cons_append]
      exact tail.cons id
    | false =>
      simp only [retryAll, flag, Bool.false_eq_true, if_false]
      exact List.perm_middle.trans (tail.cons id)

/-- The entries of a list are retried or passed over, one after the other. -/
theorem retryAll_retries (coherent : Coherent e.stores.view []) {ids : List EntryId} (once : ids.Nodup)
    (eligible : ∀ id ∈ ids, ∃ s ∈ e.queue.entries, s.id = id ∧ s.isEligible now = true)
    (still : StandsStill e (e.retryAll ids).1 now) (distinct : (e.retryAll ids).1.stores.Distinct) :
    Retries e now (e.retryAll ids).2.1 (e.retryAll ids).2.2 (e.retryAll ids).1 := by
  induction ids generalizing e with
  | nil => exact .refl e now
  | cons id rest ih =>
    obtain ⟨apart, once_rest⟩ := List.nodup_cons.mp once
    obtain ⟨⟨s, member, rfl, ready⟩, eligible_rest⟩ := List.forall_mem_cons.mp eligible
    let between := (e.retryOne s.id).1
    have distinct_first : between.stores.Distinct := (between.retryAll_completes rest).distinct_before distinct
    have first := retryOne_retries coherent member ready
      (still.earlier (between.retryAll_advances rest)) distinct_first
    have coherent_first : Coherent between.stores.view [] :=
      (e.retryOne_completes s.id).coherent (coherent.open_section rfl) distinct_first
    have eligible_first : ∀ id ∈ rest, ∃ u ∈ between.queue.entries, u.id = id ∧ u.isEligible now = true := by
      intro id listed
      obtain ⟨u, known, rfl, ready_u⟩ := eligible_rest id listed
      have other : u.id ≠ s.id := fun same => apart (same ▸ listed)
      refine ⟨u, first.others u known ?_ ?_, rfl, ready_u⟩
      · split <;> simp [other]
      · split <;> simp [other]
    have still_rest := still.later ((Advances.now e).trans (e.retryOne_advances s.id))
    have second := ih coherent_first once_rest eligible_first still_rest distinct
    have parts := between.retryAll_parts rest
    have both := first.trans second fun id listed => by
      have head : id = s.id := by
        cases flag : (e.retryOne s.id).2 <;> simpa [flag] using listed
      have absent : id ∉ (between.retryAll rest).2.1 ++ (between.retryAll rest).2.2 :=
        fun again => apart (head ▸ parts.mem_iff.mp again)
      exact ⟨fun again => absent (List.mem_append_left _ again),
        fun again => absent (List.mem_append_right _ again)⟩
    simp only [retryAll]
    cases flag : (e.retryOne s.id).2 with
    | true =>
      rw [flag] at both
      exact both
    | false =>
      rw [flag] at both
      exact both

/-- Nothing is retried while the scopes of all entries are busy. -/
theorem retryAll_of_busy {ids : List EntryId} (once : ids.Nodup)
    (busy : ∀ id ∈ ids, ∃ s, e.queue.find? id = some s ∧ s.isEligible now = true ∧ e.registry.Busy s.scope)
    (still : StandsStill e (e.retryAll ids).1 now) :
    (e.retryAll ids).2.1 = [] ∧ (e.retryAll ids).1.isUp = e.isUp := by
  induction ids generalizing e with
  | nil => exact ⟨rfl, rfl⟩
  | cons id rest ih =>
    obtain ⟨apart, once_rest⟩ := List.nodup_cons.mp once
    obtain ⟨⟨s, found, ready, holder⟩, busy_rest⟩ := List.forall_mem_cons.mp busy
    obtain rfl : s.id = id := (Queue.mem_of_find? found).2
    have head := e.retryOne_advances s.id
    obtain rfl := still.now_eq (head.trans ((e.retryOne s.id).1.retryAll_advances rest))
    obtain ⟨flag, registry, moved⟩ := retryOne_of_busy found ready holder
    have queue : (e.retryOne s.id).1.queue = e.queue.replace ((s.clearElapsed e.now.1).touch e.now.1) :=
      congrArg (fun m : Moment => m.queue) moved
    have busy_first : ∀ id ∈ rest, ∃ u, (e.retryOne s.id).1.queue.find? id = some u ∧
        u.isEligible e.now.1 = true ∧ (e.retryOne s.id).1.registry.Busy u.scope := by
      intro id listed
      obtain ⟨u, found_u, ready_u, holder_u⟩ := busy_rest id listed
      have other : id ≠ ((s.clearElapsed e.now.1).touch e.now.1).id := fun same =>
        apart ((same.trans (s.id_clearElapsed _)) ▸ listed)
      refine ⟨u, ?_, ready_u, registry ▸ holder_u⟩
      rw [queue, Queue.find?_replace_of_ne _ other, found_u]
    obtain ⟨tail, up⟩ := ih once_rest busy_first (still.later ((Advances.now e).trans head))
    simp only [retryAll, flag, Bool.false_eq_true, if_false]
    exact ⟨tail, up.trans (isUp_of_queue queue rfl)⟩

/-! ### A pass of the scheduler -/

/-- Where an entry after retries comes from. -/
theorem Retries.origin {after : Engine} {retried skipped : List EntryId} {q : QueueEntry}
    (retries : Retries e now retried skipped after) (unique : (e.queue.entries.map (·.id)).Nodup)
    (member : q ∈ after.queue.entries) :
    (∃ s ∈ e.queue.entries, ∃ task, q = s.inRetry task now) ∨
      (∃ s ∈ e.queue.entries, q = (s.clearElapsed now).touch now ∧ after.registry.Busy s.scope) ∨
      (q ∈ e.queue.entries ∧ q.id ∉ retried ∧ q.id ∉ skipped) := by
  have unique_after : (after.queue.entries.map (·.id)).Nodup := retries.entryIds ▸ unique
  obtain ⟨s, known, same⟩ : ∃ s ∈ e.queue.entries, s.id = q.id :=
    List.mem_map.mp (retries.entryIds ▸ List.mem_map_of_mem member)
  by_cases done : s.id ∈ retried
  · obtain ⟨t, _, _, _, entry⟩ := retries.retried s known done
    refine .inl ⟨s, known, t.id, Keyed.eq_of_key unique_after member entry ?_⟩
    exact same.symm.trans (s.inRetry_id ..).symm
  · by_cases waits : s.id ∈ skipped
    · obtain ⟨busy, entry⟩ := retries.skipped s known waits
      refine .inr (.inl ⟨s, known, Keyed.eq_of_key unique_after member entry ?_, busy⟩)
      exact same.symm.trans (s.id_clearElapsed now).symm
    · obtain rfl := Keyed.eq_of_key unique_after member (retries.others s known done waits) same.symm
      exact .inr (.inr ⟨known, done, waits⟩)

theorem tick_eq (e : Engine) : e.tick = ((e.swept.now.2.retryAll e.due).1.showQueueDepth,
    ⟨(e.queue.clearElapsed e.now.1).2, e.cleared.runWatchdog.2, (e.swept.now.2.retryAll e.due).2.1,
      (e.swept.now.2.retryAll e.due).2.2⟩) := rfl

/-- The three phases of a pass show one time if the clock stands still. -/
theorem phases_eq (still : StandsStill e e.tick.1 now) : e.now.1 = now ∧ e.cleared.now.1 = now ∧
    e.swept.now.1 = now ∧ StandsStill e.swept.now.2 e.tick.1 now := by
  have retries : e.swept.now.2.Advances e.tick.1 :=
    (e.swept.now.2.retryAll_advances e.due).trans (.of_setup rfl)
  have sweeps : e.cleared.now.2.Advances e.swept := e.cleared.now.2.timeOutAll_advances _
  have rest : e.swept.Advances e.tick.1 := (Advances.now e.swept).trans retries
  have clears : e.now.2.Advances e.cleared := .of_setup rfl
  have still_cleared : StandsStill e.cleared e.tick.1 now := still.later e.cleared_advances
  have still_swept : StandsStill e.swept e.tick.1 now := still_cleared.later e.cleared.runWatchdog_advances
  exact ⟨still.now_eq (clears.trans ((Advances.now e.cleared).trans (sweeps.trans rest))),
    still_cleared.now_eq (sweeps.trans rest), still_swept.now_eq retries,
    still_swept.later (Advances.now e.swept)⟩

/-- Retried and skipped are the entries in automatic mode that are eligible after the watchdog. -/
theorem mem_parts (still : StandsStill e e.tick.1 now) (id : EntryId) :
    id ∈ e.tick.2.retried ∨ id ∈ e.tick.2.skipped ↔
      ∃ q ∈ e.swept.queue.entries, q.id = id ∧ q.mode = .auto ∧ q.isEligible now = true := by
  obtain ⟨_, _, rfl, _⟩ := phases_eq still
  exact List.mem_append.symm.trans
    ((e.swept.now.2.retryAll_parts e.due).mem_iff.trans Queue.mem_eligibleAuto)

section pass
variable (sound : e.Sound) (distinct : e.tick.1.stores.Distinct) (still : StandsStill e e.tick.1 now)
include sound distinct still

/-- What the retries of a pass leave behind. -/
theorem tick_retries : Retries e.swept now e.tick.2.retried e.tick.2.skipped e.tick.1 := by
  have sound_swept := sound.swept (distinct_swept distinct)
  obtain ⟨_, _, rfl, still_retries⟩ := phases_eq still
  have once : e.due.Nodup := Queue.nodup_eligibleAuto (sound_books sound_swept.coherent).unique_ids _
  have eligible : ∀ id ∈ e.due, ∃ s ∈ e.swept.now.2.queue.entries,
      s.id = id ∧ s.isEligible e.swept.now.1 = true := by
    intro id listed
    obtain ⟨s, member, same, _, ready⟩ := Queue.mem_eligibleAuto.mp listed
    exact ⟨s, member, same, ready⟩
  obtain ⟨up, tasks, started, entryIds, others, retried, skipped⟩ :=
    retryAll_retries (e := e.swept.now.2) sound_swept.coherent once eligible still_retries distinct
  exact ⟨up, tasks, started, entryIds, others, retried, skipped⟩

/-- What the watchdog leaves behind in a pass. -/
theorem tick_sweeps : e.tick.2.timedOut = (e.registry.overdue e.timeout now).map (·.id) ∧
    Sweeps e.cleared (e.registry.overdue e.timeout now) e.swept ∧
    (e.swept.isUp = true ↔ e.isUp = true ∧ e.cleared.now.2.SweepFits (e.registry.overdue e.timeout now)) := by
  have sound_cleared := sound.cleared (e.swept_completes.distinct_before (distinct_swept distinct))
  obtain ⟨_, rfl, _⟩ := phases_eq still
  exact runWatchdog_sweeps sound_cleared (distinct_swept distinct)

/-- What is neither retried nor skipped, and is not hit by the watchdog, loses at most an ended cooldown. -/
theorem tick_spares (member : s ∈ e.queue.entries) (not_retried : s.id ∉ e.tick.2.retried)
    (not_skipped : s.id ∉ e.tick.2.skipped)
    (unhit : ∀ t ∈ e.registry.tasks, t.id ∈ e.tick.2.timedOut → t.scope.label ≠ s.scope.label) :
    s.clearElapsed now ∈ e.tick.1.queue.entries := by
  obtain ⟨timedOut, sweeps, _⟩ := tick_sweeps sound distinct still
  have cleared : s.clearElapsed now ∈ e.cleared.queue.entries := by
    obtain ⟨now_eq, _⟩ := phases_eq still
    exact now_eq ▸ List.mem_map_of_mem (f := fun q => q.clearElapsed e.now.1) member
  have swept : s.clearElapsed now ∈ e.swept.queue.entries := by
    refine (sweeps.entries _ fun t overdue => ?_).mpr cleared
    rw [s.scope_clearElapsed now]
    exact unhit t (Registry.mem_overdue.mp overdue).1 (timedOut ▸ List.mem_map_of_mem overdue)
  have same := s.id_clearElapsed now
  exact (tick_retries sound distinct still).others _ swept (same ▸ not_retried) (same ▸ not_skipped)

/-- An entry that is retried spends an attempt and names a new task that runs for it. -/
theorem tick_runs {budget : Nat} (regular : e.swept.books.Regular budget) (small : budget ≤ Word.max32)
    (member : s ∈ e.swept.queue.entries) (listed : s.id ∈ e.tick.2.retried) :
    ∃ q ∈ e.tick.1.queue.entries, q.id = s.id ∧ q.status = .running ∧ q.attempts = s.attempts + 1 ∧
      ∃ t ∈ e.tick.1.registry.tasks, (∀ u ∈ e.registry.tasks, u.id ≠ t.id) ∧ t.status = .running ∧
        t.retryOf = some s.id ∧ t.scope = s.scope ∧ q.currentTask = some t.id := by
  obtain ⟨_, sweeps, _⟩ := tick_sweeps sound distinct still
  obtain ⟨t, task, fresh, runs, entry⟩ := (tick_retries sound distinct still).retried s member listed
  have attempts : (s.inRetry t.id now).attempts = s.attempts + 1 := by
    obtain ⟨other, known, same, auto, ready⟩ := (mem_parts still s.id).mp (.inl listed)
    have unique := (sound_books (sound.swept (distinct_swept distinct)).coherent).unique_ids
    obtain rfl := Keyed.eq_of_key unique known member same
    have left := ((QueueEntry.isEligible_auto auto).mp ready).2.1
    have limit := (regular.entries other known).budget
    rw [QueueEntry.inRetry_attempts]
    omega
  have fresh_before : ∀ u ∈ e.registry.tasks, u.id ≠ t.id := by
    intro u old same
    have ids : e.swept.registry.tasks.map (·.id) = e.registry.tasks.map (·.id) := sweeps.ids
    obtain ⟨v, swept, same_v⟩ := List.mem_map.mp (ids ▸ List.mem_map_of_mem old)
    exact fresh v swept (same_v.trans same)
  exact ⟨_, entry, s.inRetry_id t.id now, rfl, attempts, t, task, fresh_before, runs.status, runs.retryOf,
    runs.scope, rfl⟩

end pass

/-- An engine at which a pass of the scheduler has nothing to do but to pass over entries. -/
structure AtRest (e : Engine) (now : Instant) : Prop where
  cooldowns : ∀ q ∈ e.queue.entries, q.cooldownElapsed now = false
  tasks : ∀ t ∈ e.registry.tasks, ¬ t.IsOverdue e.timeout now
  entries : ∀ q ∈ e.queue.entries, q.mode = .auto → q.isEligible now = true → e.registry.Busy q.scope

/-- An entry that keeps an ended cooldown after a pass was due in it, and so is not left as it was. -/
theorem tick_atRest (sound : e.Sound) (distinct : e.tick.1.stores.Distinct)
    (still : StandsStill e e.tick.1 now) {budget : Nat} (regular : e.swept.books.Regular budget)
    (positive : 0 < e.timeout.nanos) : AtRest e.tick.1 now := by
  have sound_swept := sound.swept (distinct_swept distinct)
  have retries := tick_retries sound distinct still
  have unique := (sound_books sound_swept.coherent).unique_ids
  have timeout : e.tick.1.timeout = e.timeout := e.tick_advances.timeout_eq
  have left_alone : ∀ q ∈ e.swept.queue.entries, q.id ∉ e.tick.2.retried → q.id ∉ e.tick.2.skipped →
      q.mode = .auto → q.isEligible now = false := by
    intro q member not_retried not_skipped auto
    refine Bool.eq_false_iff.mpr fun ready => ?_
    exact ((mem_parts still q.id).mpr ⟨q, member, rfl, auto, ready⟩).elim not_retried not_skipped
  refine ⟨fun q member => ?_, fun t task overdue => ?_, fun q member auto ready => ?_⟩
  · rcases retries.origin unique member with ⟨s, _, task, rfl⟩ | ⟨s, _, rfl, _⟩ |
      ⟨old, not_retried, not_skipped⟩
    · rfl
    · exact s.cooldownElapsed_clearElapsed now
    · refine Bool.eq_false_iff.mpr fun elapsed => ?_
      obtain ⟨auto, ready⟩ := (regular.entries q old).ready now elapsed
      rw [left_alone q old not_retried not_skipped auto] at ready
      cases ready
  · rw [timeout] at overdue
    rcases retries.started t task with old | new
    · obtain ⟨_, sweeps, _⟩ := tick_sweeps sound distinct still
      exact sweeps.none_overdue sound.documented.unique t old overdue
    · exact t.not_overdue_of_started new positive overdue
  · rcases retries.origin unique member with ⟨s, _, task, rfl⟩ | ⟨s, _, rfl, busy⟩ |
      ⟨old, not_retried, not_skipped⟩
    · exact absurd (s.inRetry_status task now) ((QueueEntry.isEligible_auto auto).mp ready).1
    · rwa [show ((s.clearElapsed now).touch now).scope = s.scope from s.scope_clearElapsed now]
    · rw [left_alone q old not_retried not_skipped auto] at ready
      cases ready

/-- A pass that begins at rest does nothing but pass over entries. -/
theorem AtRest.tick (rest : AtRest e now) (unique : (e.queue.entries.map (·.id)).Nodup)
    (still : StandsStill e e.tick.1 now) :
    e.tick.1.isUp = e.isUp ∧ e.tick.2.cooldownsCleared = 0 ∧ e.tick.2.timedOut = [] ∧
      e.tick.2.retried = [] := by
  obtain ⟨now_eq, cleared_now, swept_now, still_retries⟩ := phases_eq still
  have none_elapsed : e.queue.entries.filter (·.cooldownElapsed now) = [] :=
    List.filter_eq_nil_iff.mpr fun q member => by simp [rest.cooldowns q member]
  have cleared_queue : e.cleared.queue = e.queue := by
    have same : e.queue.entries.map (·.clearElapsed e.now.1) = e.queue.entries := by
      refine (List.map_congr_left (g := id) fun q member => ?_).trans (List.map_id _)
      simp [QueueEntry.clearElapsed, now_eq, rest.cooldowns q member]
    exact congrArg (fun entries => { e.queue with entries }) same
  have none_overdue : e.registry.overdue e.timeout e.cleared.now.1 = [] := by
    refine List.filter_eq_nil_iff.mpr fun t task => ?_
    rw [cleared_now]
    simpa using rest.tasks t task
  have sweeps : e.cleared.runWatchdog = (e.cleared.now.2, []) := by
    have pass : e.cleared.runWatchdog = e.cleared.now.2.timeOutAll
        ((e.registry.overdue e.timeout e.cleared.now.1).map (·.id)) :=
      congrArg e.cleared.now.2.timeOutAll Registry.timedOut_eq
    rw [pass, none_overdue]
    rfl
  have swept_eq : e.swept = e.cleared.now.2 := congrArg Prod.fst sweeps
  have queue : e.swept.queue = e.queue := by rw [swept_eq, queue_now, cleared_queue]
  have registry : e.swept.registry = e.registry := by rw [swept_eq]; rfl
  obtain ⟨none_retried, up⟩ : (e.swept.now.2.retryAll e.due).2.1 = [] ∧
      (e.swept.now.2.retryAll e.due).1.isUp = e.swept.isUp := by
    refine retryAll_of_busy (e := e.swept.now.2) ?_ ?_ still_retries
    · rw [due, queue]
      exact Queue.nodup_eligibleAuto unique _
    · intro id listed
      rw [due, queue, swept_now] at listed
      obtain ⟨q, member, rfl, auto, ready⟩ := Queue.mem_eligibleAuto.mp listed
      rw [queue_now, registry_now, queue, registry]
      exact ⟨q, Keyed.find?_of_mem unique member, ready, rest.entries q member auto ready⟩
  refine ⟨up.trans (isUp_of_queue queue rfl), ?_, congrArg Prod.snd sweeps, none_retried⟩
  change (e.queue.entries.filter (·.cooldownElapsed e.now.1)).length = 0
  rw [now_eq, none_elapsed]
  rfl

/-- What a pass of the scheduler does while the clock stands still. It tries each entry in automatic mode once that
is eligible after cooldowns were dropped and the watchdog has run. An entry is retried by a new task that runs, or
else it overlaps an active task and is only touched; the other entries stay as they were. Afterwards no ended
cooldown is left, and a second pass at the same time drops no cooldown, fails no task and retries no entry. -/
structure TriesDue (e : Engine) (now : Instant) (report : TickReport) (after : Engine) : Prop where
  retriedOnce : report.retried.Nodup
  skippedOnce : report.skipped.Nodup
  apart : report.retried.Disjoint report.skipped
  due : ∀ id, id ∈ report.retried ∨ id ∈ report.skipped ↔
    ∃ q ∈ e.swept.queue.entries, q.id = id ∧ q.mode = .auto ∧ q.isEligible now = true
  retried : ∀ q ∈ e.swept.queue.entries, q.id ∈ report.retried →
    ∃ s ∈ after.queue.entries, s.id = q.id ∧ s.status = .running ∧ s.attempts = q.attempts + 1 ∧
      ∃ t ∈ after.registry.tasks, (∀ u ∈ e.registry.tasks, u.id ≠ t.id) ∧ t.status = .running ∧
        t.retryOf = some q.id ∧ t.scope = q.scope ∧ s.currentTask = some t.id
  skipped : ∀ q ∈ e.swept.queue.entries, q.id ∈ report.skipped →
    (∃ t ∈ after.registry.tasks, t.status.isActive = true ∧ t.scope.Overlap q.scope) ∧
      (q.clearElapsed now).touch now ∈ after.queue.entries
  spared : ∀ q ∈ e.queue.entries, q.id ∉ report.retried → q.id ∉ report.skipped →
    (∀ t ∈ e.registry.tasks, t.id ∈ report.timedOut → t.scope.label ≠ q.scope.label) →
      q.clearElapsed now ∈ after.queue.entries
  others : ∀ q ∈ e.swept.queue.entries, q.id ∉ report.retried → q.id ∉ report.skipped →
    q ∈ after.queue.entries
  entryIds : after.queue.entries.map (·.id) = e.swept.queue.entries.map (·.id)
  cooldowns : ∀ q ∈ after.queue.entries, ∀ ending, q.cooldownUntil = some ending → now < ending
  second : ∀ again second, after.tick = (again, second) → StandsStill after again now →
    again.isUp = after.isUp ∧ second.cooldownsCleared = 0 ∧ second.timedOut = [] ∧ second.retried = []

theorem tick_triesDue (h : e.Reachable) (distinct : e.tick.1.supply.Distinct) (still : StandsStill e e.tick.1 now)
    (positive : 0 < e.timeout.nanos) (small : e.queue.maxAttempts ≤ Word.max32) :
    TriesDue e now e.tick.2 e.tick.1 := by
  have retries := tick_retries h.sound distinct still
  obtain ⟨budget, regular⟩ := h.regular
  have regular_swept : e.swept.books.Regular budget :=
    (swept_passage h.coherent (distinct_swept distinct)).regular regular
  have rest := tick_atRest h.sound distinct still regular_swept positive
  have parts : (e.tick.2.retried ++ e.tick.2.skipped).Nodup := by
    have coherent := (h.sound.swept (distinct_swept distinct)).coherent
    have once : e.due.Nodup := Queue.nodup_eligibleAuto (sound_books coherent).unique_ids _
    exact ((e.swept.now.2.retryAll_parts e.due).nodup_iff).mpr once
  obtain ⟨once, once_skipped, apart⟩ := List.nodup_append.mp parts
  refine ⟨once, once_skipped, fun id done waits => apart id done id waits rfl, mem_parts still,
    fun q member listed => ?_, retries.skipped, fun q member not_retried not_skipped unhit => ?_,
    retries.others, retries.entryIds, fun q member ending cools => ?_, fun again second pass still_again => ?_⟩
  · exact tick_runs h.sound distinct still regular_swept (regular.queue ▸ small) member listed
  · exact tick_spares h.sound distinct still member not_retried not_skipped unhit
  · have running := rest.cooldowns q member
    rw [QueueEntry.cooldownElapsed, cools] at running
    by_contra past
    exact of_decide_eq_false running (Instant.not_lt.mp past)
  · have reachable : e.tick.1.Reachable := h.call .tick distinct
    obtain ⟨rfl, rfl⟩ : e.tick.1.tick.1 = again ∧ e.tick.1.tick.2 = second := by rw [pass]; exact ⟨rfl, rfl⟩
    exact rest.tick (sound_books reachable.coherent).unique_ids still_again

/-- A pass of the scheduler does exactly its job, if a cooldown can be formed in its turn for each task that the
watchdog fails in it. If not, it ends the program. -/
theorem scheduler_pass_does_its_job_if_cooldowns_fit (h : e.Reachable) (up : e.isUp = true) {after : Engine}
    {report : TickReport} (pass : e.tick = (after, report)) (distinct : after.supply.Distinct)
    (still : StandsStill e after now) (positive : 0 < e.timeout.nanos) (small : e.queue.maxAttempts ≤ Word.max32) :
    (e.cleared.now.2.SweepFits (e.registry.overdue e.timeout now) →
      after.isUp = true ∧ TriesDue e now report after) ∧
    (¬ e.cleared.now.2.SweepFits (e.registry.overdue e.timeout now) → after.isUp = false) := by
  obtain ⟨rfl, rfl⟩ : e.tick.1 = after ∧ e.tick.2 = report := by rw [pass]; exact ⟨rfl, rfl⟩
  obtain ⟨_, _, lives⟩ := tick_sweeps h.sound distinct still
  rw [← (tick_retries h.sound distinct still).isUp] at lives
  refine ⟨fun fits => ⟨lives.mpr ⟨up, fits⟩, tick_triesDue h distinct still positive small⟩, fun beyond => ?_⟩
  exact Bool.eq_false_iff.mpr fun running => beyond (lives.mp running).2

/-- The pass fails a task that runs too long, retries one failed scope, and passes over another one that
was submitted again meanwhile. -/
theorem scheduler_pass_over_two_failed_scopes :
    ∃ (e after again : Engine) (report second : TickReport) (now : Instant), e.Reachable ∧
      e.isUp = true ∧ e.tick = (after, report) ∧ after.supply.Distinct ∧ StandsStill e after now ∧
      0 < e.timeout.nanos ∧ e.queue.maxAttempts ≤ Word.max32 ∧
      e.cleared.now.2.SweepFits (e.registry.overdue e.timeout now) ∧ after.isUp = true ∧
      report.timedOut = [⟨.ofNat 0⟩] ∧ report.retried = [⟨.ofNat 0⟩] ∧ report.skipped = [⟨.ofNat 1⟩] ∧
      report.cooldownsCleared = 2 ∧ after.tick = (again, second) ∧ again.isUp = true ∧
      second.cooldownsCleared = 0 ∧ second.timedOut = [] ∧ second.retried = [] ∧
      second.skipped = [⟨.ofNat 1⟩] := by
  let supply : Supply :=
    ⟨fun n => ⟨600 * min n 10, 0⟩, fun n => ⟨.ofNat n⟩, fun n => ⟨.ofNat n⟩, fun _ => 0, 0, 0, 0, 0⟩
  let prices := (Engine.ofConfig .default (.inMemory 100) .empty .parked supply).perform
    (.submit ⟨.sources ["prices"], "ops", none, none⟩)
  let news := prices.perform (.submit ⟨.sources ["news"], "ops", none, none⟩)
  let newsFailed := news.perform (.recordOutcome ⟨.ofNat 1⟩ (.failure "E1" none))
  let filings := newsFailed.perform (.submit ⟨.sources ["filings"], "ops", none, none⟩)
  let filingsFailed := filings.perform (.recordOutcome ⟨.ofNat 2⟩ (.failure "E2" none))
  let e := filingsFailed.perform (.submit ⟨.sources ["filings"], "ops", none, none⟩)
  have reachable : e.Reachable := (((((((Reachable.start ..).call _ (by decide +kernel)).call _
    (by decide +kernel)).call _ (by decide +kernel)).call _ (by decide +kernel)).call _
    (by decide +kernel)).call _ (by decide +kernel))
  -- The entries stand in the order in which they were last touched.
  have due : e.due = [⟨.ofNat 0⟩, ⟨.ofNat 1⟩] :=
    (Queue.eligibleAuto_of_sorted (by decide +kernel)).trans (by decide +kernel)
  let after := (e.swept.now.2.retryAll [⟨.ofNat 0⟩, ⟨.ofNat 1⟩]).1.showQueueDepth
  have pass : e.tick = (after, ⟨2, [⟨.ofNat 0⟩], [⟨.ofNat 0⟩], [⟨.ofNat 1⟩]⟩) := by
    rw [tick_eq, due]
    exact congrArg (Prod.mk after) (by decide +kernel)
  have distinct : after.supply.Distinct := by decide +kernel
  have still : StandsStill e after ⟨6000, 0⟩ := by decide +kernel
  have still_again : StandsStill after after.tick.1 ⟨6000, 0⟩ := by decide +kernel
  have positive : 0 < e.timeout.nanos := by decide +kernel
  have small : e.queue.maxAttempts ≤ Word.max32 := by decide +kernel
  have pair : ∀ {p : Engine × TickReport}, p = (p.1, p.2) := rfl
  have up : e.isUp = true := by decide +kernel
  have fits : e.cleared.now.2.SweepFits (e.registry.overdue e.timeout ⟨6000, 0⟩) := by decide +kernel
  obtain ⟨goes_on, _⟩ :=
    scheduler_pass_does_its_job_if_cooldowns_fit (e := e) reachable up pass distinct still positive small
  obtain ⟨up_after, tries⟩ := goes_on fits
  obtain ⟨up_again, none_cleared, none_failed, none_retried⟩ := tries.second _ _ pair still_again
  exact ⟨e, after, after.tick.1, _, after.tick.2, _, reachable, up, pass, distinct, still, positive, small, fits,
    up_after, rfl, rfl, rfl, rfl, pair, up_again.trans up_after, none_cleared, none_failed, none_retried,
    by decide +kernel⟩

/-- A pass ends the program at an overdue task where the cooldown for it is longer than the longest span. -/
theorem scheduler_pass_ends_behind_the_longest_wait :
    ¬ ∀ (e after : Engine) (report : TickReport) (now : Instant), e.Reachable → e.isUp = true →
      e.tick = (after, report) → after.supply.Distinct → StandsStill e after now → 0 < e.timeout.nanos →
      e.queue.maxAttempts ≤ Word.max32 → after.isUp = true ∧ TriesDue e now report after := by
  intro passes
  have distinct : underLongestWaits.tick.1.supply.Distinct := by decide +kernel
  have still : StandsStill underLongestWaits underLongestWaits.tick.1 ⟨7200, 0⟩ := by decide +kernel
  have ended : underLongestWaits.tick.1.isUp = false := by decide +kernel
  obtain ⟨up, _⟩ := passes underLongestWaits _ _ _ underLongestWaits_reachable (by decide) rfl distinct still
    (by decide) (by decide)
  exact absurd up (Bool.eq_false_iff.mp ended)

end Engine

end Reindexing
