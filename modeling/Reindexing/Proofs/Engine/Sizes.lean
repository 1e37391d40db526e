import Reindexing.Proofs.Cli.Answers
import Reindexing.Proofs.Engine.Budget
import Reindexing.Proofs.Engine.Outcomes
import Reindexing.Proofs.Engine.Patience
import Reindexing.Proofs.Registry.Times

/-!
# Sizes of what an engine keeps

A clock that shows only times that can be written makes every time of the engine
such a time: an end of a cooldown is a reading of the clock, moved forward but not
beyond the latest instant, and tasks keep readings as they are. Differences of such
times have room in their fields. Attempts stop at the largest count, and the budget
of an entry is that of the queue.
-/
namespace Reindexing

namespace Instant

variable {a b t : Instant}

theorem Expressible.later (expressible : t.Expressible) {nanos : Nat}
    (range : inRange (t.later nanos).second = true) : (t.later nanos).Expressible := by
  refine ⟨range, ?_⟩
  have nano := expressible.nano
  unfold Instant.later
  split
  · next lingers =>
    obtain ⟨leap, within⟩ := lingers
    have last : t.second % 60 = 59 := by omega
    exact .inr ⟨last, within⟩
  · exact .inl (Nat.mod_lt _ (by decide))

theorem Expressible.add? (expressible : t.Expressible) {nanos : Nat} {moved : Instant}
    (success : t.add? nanos = some moved) : moved.Expressible := by
  have nano : t.nano < 2 * nanosPerSecond := by
    have nano := expressible.nano
    omega
  rw [add?_eq_later nano] at success
  split at success
  · next range =>
    obtain rfl := Option.some.inj success
    exact expressible.later range
  · cases success

theorem Expressible.max (left : a.Expressible) (right : b.Expressible) : (max a b).Expressible := by
  change (if a ≤ b then b else a).Expressible
  split
  · exact right
  · exact left

/-- The nanoseconds between instants that can be written. -/
theorem Expressible.natAbs_sub_le (left : a.Expressible) (right : b.Expressible) :
    (b - a).natAbs ≤ 20000000000000 * 1000000000 := by
  have bounds {t : Instant} (expressible : t.Expressible) :
      -8334601228800 ≤ t.second ∧ t.second ≤ 8210266876799 ∧ t.nano < 2000000000 := by
    have range := expressible.range
    have nano := expressible.nano
    simp only [inRange, Bool.and_eq_true, decide_eq_true_eq, show minSecond = -8334601228800 from rfl,
      show maxSecond = 8210266876799 from rfl] at range
    simp only [nanosPerSecond] at nano
    omega
  have first := bounds left
  have last := bounds right
  change (Instant.sub b a).natAbs ≤ _
  simp only [Instant.sub, nanosPerSecond]
  split
  · omega
  · split <;> omega

theorem Expressible.isInt64_wholeMillis (left : a.Expressible) (right : b.Expressible) :
    Word.isInt64 (wholeMillis (b - a)) = true := by
  have small := left.natAbs_sub_le right
  have millis : (wholeMillis (b - a)).natAbs = (b - a).natAbs / 1000000 := Int.natAbs_tdiv ..
  have within : (wholeMillis (b - a)).natAbs ≤ Word.maxInt64 := by
    simp only [Word.maxInt64]
    omega
  simp only [Word.isInt64, Bool.and_eq_true, decide_eq_true_eq]
  omega

end Instant

theorem CooldownPolicy.endOf_expressible {start : Instant} (expressible : start.Expressible) (delay : Span) :
    (endOf delay start).Expressible := by
  have latest : Instant.latest.Expressible := by decide
  unfold endOf Span.toDelta?
  split
  · rw [Option.bind_some]
    cases moved : start.add? delay.nanos with
    | none => exact latest
    | some ending => exact expressible.add? moved
  · exact latest

/-! ### Entries -/

/-- The times from which the cooldown of an entry comes can be written, and its numbers have their sizes. -/
structure QueueEntry.IsTimed (e : QueueEntry) : Prop extends e.IsSized where
  lastAttemptAt : ∀ t, e.lastAttemptAt = some t → t.Expressible

section
variable {q : Queue} {now : Instant} {e next taken : QueueEntry} {notes new : List Note} {b after : Books}
  {budget draw : Nat} {force : Bool}

theorem Queue.cooldownAfter_expressible (expressible : now.Expressible) {ending : Instant}
    (found : q.cooldownAfter e now draw = some ending) : ending.Expressible := by
  unfold cooldownAfter at found
  split at found
  · obtain rfl := Option.some.inj found
    obtain ⟨delay, kept, _⟩ := q.policy.keptUntil_eq_endOf e.attempts draw now
    rw [kept]
    exact CooldownPolicy.endOf_expressible expressible delay
  · cases found

theorem QueueEntry.IsTimed.clearElapsed (timed : e.IsTimed) (now : Instant) : (e.clearElapsed now).IsTimed :=
  e.clearElapsed_has now timed { timed with cooldownUntil := nofun }

theorem Queue.waitSeconds_le {ending : Instant} (last : ending.Expressible) (first : now.Expressible) :
    waitSeconds ending now ≤ Word.max64 := by
  have small := first.natAbs_sub_le last
  have seconds : (Instant.wholeSeconds (ending - now)).natAbs = (ending - now).natAbs / 1000000000 :=
    Int.natAbs_tdiv ..
  have within : (Instant.wholeSeconds (ending - now)).natAbs ≤ Word.max64 := by
    simp only [Word.max64]
    omega
  have some_ : 1 ≤ Word.max64 := by decide
  unfold waitSeconds
  omega

/-- A claim counts no further than counts go, and drops the cooldown. -/
theorem QueueEntry.Taken.timed (takes : e.Taken force now taken) (expressible : now.Expressible)
    (sized : e.IsSized) (task : Option TaskId) : { taken with currentTask := task }.IsTimed where
  attempts := takes.attempts ▸ Nat.min_le_right _ _
  maxAttempts := takes.maxAttempts ▸ sized.maxAttempts
  cooldownUntil t found := by
    have none : taken.cooldownUntil = some t := found
    rw [takes.cooldown] at none
    cases none
  lastAttemptAt t found := by
    have now : taken.lastAttemptAt = some t := found
    rw [takes.attempted] at now
    exact Option.some.inj now ▸ expressible

theorem Queue.withMode_timed (timed : e.IsTimed) (expressible : now.Expressible) (mode : RetryMode) (draw : Nat) :
    (q.withMode e mode now draw).IsTimed where
  attempts := by
    change (if mode = .auto then min e.attempts e.maxAttempts else e.attempts) ≤ Word.max32
    split
    · exact Nat.le_trans (Nat.min_le_left _ _) timed.attempts
    · exact timed.attempts
  maxAttempts := timed.maxAttempts
  cooldownUntil t found := by
    have from_last : (e.lastAttemptAt.getD now).Expressible := by
      cases attempted : e.lastAttemptAt with
      | none => exact expressible
      | some last => exact timed.lastAttemptAt last attempted
    exact cooldownAfter_expressible from_last (QueueEntry.cooldown_of_withMode found).2
  lastAttemptAt := timed.lastAttemptAt

theorem Alters.timed (alters : Alters q now e notes next) (expressible : now.Expressible) (before : e.IsTimed) :
    next.IsTimed := by
  have attempted : ∀ t, some now = some t → t.Expressible := fun t same => Option.some.inj same ▸ expressible
  cases alters with
  | failed failed draw =>
    refine ⟨⟨before.attempts, before.maxAttempts, fun t found => ?_⟩, attempted⟩
    simp only [Queue.repeatedFailure] at found
    split at found
    · exact before.cooldownUntil t found
    · exact Queue.cooldownAfter_expressible expressible found
  | retryFailed failed draw =>
    exact ⟨⟨before.attempts, before.maxAttempts, fun _ found => Queue.cooldownAfter_expressible expressible found⟩,
      attempted⟩
  | modeSet mode draw => exact Queue.withMode_timed before expressible mode draw
  | cooldownEnded => exact before.clearElapsed now
  | rolledBack => exact { before.clearElapsed now with }
  | retried task takes => exact takes.timed expressible before.toIsSized (some task)

theorem Change.timed (change : Change now b new after) (expressible : now.Expressible) (limited : Limited budget b)
    (small : budget ≤ Word.max32) (before : ∀ e ∈ b.queue.entries, e.IsTimed) :
    ∀ e ∈ after.queue.entries, e.IsTimed := by
  intro next member
  rcases change.origin limited.issued member with ⟨old, _⟩ | ⟨e, known, alters⟩ | ⟨failed, mode, draw, created, _⟩
  · exact before next old
  · exact alters.timed expressible (before e known)
  · rw [created]
    refine ⟨⟨Nat.zero_le _, limited.queue.trans_le small, fun _ found => ?_⟩, ?_⟩
    · exact Queue.cooldownAfter_expressible expressible found
    · exact fun t same => Option.some.inj same ▸ expressible

theorem Passage.timed {m later : Moment} (passage : Passage m notes later)
    (readable : ∀ n, (m.clock n).Expressible) (limited : Limited budget m.toBooks) (small : budget ≤ Word.max32)
    (before : ∀ e ∈ m.queue.entries, e.IsTimed) : ∀ e ∈ later.queue.entries, e.IsTimed := by
  induction passage with
  | wait => exact before
  | change change => exact change.timed (readable _) limited small before
  | trans passage _ first second =>
    exact second (passage.clock_eq ▸ readable) (passage.limited limited) (first readable limited before)

end

/-! ### Tasks -/

/-- The times of a task can be written. -/
structure Task.IsTimed (t : Task) : Prop where
  startedAt : ∀ s, t.startedAt = some s → s.Expressible
  finishedAt : ∀ f, t.finishedAt = some f → f.Expressible

theorem Task.WellFormed.isInt64_durationMillis {t : Task} (wellFormed : t.WellFormed) (timed : t.IsTimed) :
    ∀ d, t.durationMillis = some d → Word.isInt64 d = true := by
  intro d lasted
  have terminal : t.status.isTerminal = true := by rw [← wellFormed.timed, lasted]; rfl
  have finished : t.finishedAt.isSome = true := by rw [wellFormed.finished, terminal]
  have started : t.startedAt.isSome = true := by
    rw [wellFormed.started, TaskStatus.not_waiting_of_terminal terminal]
    rfl
  obtain ⟨s, started⟩ := Option.isSome_iff_exists.mp started
  obtain ⟨f, finished⟩ := Option.isSome_iff_exists.mp finished
  have duration := (wellFormed.span s f started finished).2
  rw [lasted] at duration
  rw [Option.some.inj duration]
  exact (timed.startedAt s started).isInt64_wholeMillis (timed.finishedAt f finished)

namespace Registry

variable {r after : Registry} {t : Task} {told : List (TaskId × Outcome)}

theorem Arises.timed {c : Call} (arises : Arises r c t) (expressible : c.time.Expressible)
    (before : ∀ t ∈ r.tasks, t.IsTimed) : t.IsTimed := by
  cases arises with
  | kept member => exact before t member
  | created id s now =>
    obtain ⟨unstarted, unfinished⟩ := (newTask_wellFormed id s now).of_waiting (newTask_waiting id s now)
    exact ⟨by simp [unstarted], by simp [unfinished]⟩
  | @started t trace now member waiting =>
    exact ⟨fun s same => Option.some.inj same ▸ expressible, (before t member).finishedAt⟩
  | @ended t o note trace now member running =>
    have kept := before t member
    have start : (t.startedAt.getD now).Expressible := by
      cases started : t.startedAt with
      | none => exact expressible
      | some s => exact kept.startedAt s started
    refine ⟨fun s started => kept.startedAt s ?_, fun f finished => ?_⟩
    · rwa [Task.ended_startedAt] at started
    · rw [Task.ended_finishedAt, Task.endTime] at finished
      obtain rfl := Option.some.inj finished
      exact Instant.Expressible.max expressible start

theorem Proceeds.timed (run : Proceeds Instant.Expressible r told after) (before : ∀ t ∈ r.tasks, t.IsTimed) :
    ∀ t ∈ after.tasks, t.IsTimed := by
  induction run with
  | refl => exact before
  | call c expressible success => exact fun t member => (arises_of_answer success member).timed expressible before
  | trans _ _ first second => exact second (first before)

/-- What a registry groups under a task is the task and events of its log. -/
theorem mem_of_grouped {id : TaskId} {h : TaskHistory} (found : r.grouped id = some h) :
    h.task ∈ r.tasks ∧ h.latest ∈ r.history.events ∧ ∀ event ∈ h.events, event ∈ r.history.events := by
  simp only [grouped, Option.bind_eq_bind, Option.bind_eq_some_iff] at found
  obtain ⟨task, found, latest, newest, same⟩ := found
  obtain rfl := Option.some.inj same
  refine ⟨(mem_of_find? found).1, ?_, fun event listed => ?_⟩
  · simp only [HistoryLog.latest, HistoryLog.newestOf, Option.bind_eq_some_iff] at newest
    obtain ⟨position, _, there⟩ := newest
    exact List.mem_of_getElem? there
  · obtain ⟨position, _, there⟩ := List.mem_filterMap.mp listed
    exact List.mem_of_getElem? there

end Registry

/-! ### Engines -/

namespace Engine

variable {e : Engine} {notes : List Note} {id : EntryId}

/-- To the registry a chronicle is a run of accepted calls, at times of one clock. -/
theorem Chronicle.proceeds {start : Engine} (run : Chronicle start notes e) (reachable : start.Reachable) :
    e.supply.clock = start.supply.clock ∧
      ∃ told, start.registry.Proceeds (IsReading start.supply.clock) told e.registry := by
  induction run with
  | start => exact ⟨rfl, [], .refl _⟩
  | @aside notes e after _ beside clock _ ih =>
    rw [clock, show after.registry = e.registry from congrArg Stores.registry beside.stores]
    exact ih
  | @call notes e c before distinct ih =>
    obtain ⟨clock, told, registry⟩ := ih
    have call := perform_proceeds (before.reachable reachable).coherent c distinct
    have later := call.registry
    rw [show e.desk.clock = start.supply.clock from clock] at later
    exact ⟨call.clock.trans clock, _, registry.trans later⟩

/-- Whatever an engine keeps and whatever its clock shows has room in the fields of its wire form. -/
structure IsSized (e : Engine) : Prop where
  clock : ∀ n, (e.supply.clock n).Expressible
  entries : ∀ q ∈ e.queue.entries, q.IsTimed
  tasks : ∀ t ∈ e.registry.tasks, t.IsSized
  events : ∀ event ∈ e.registry.history.events, event.sequence ≤ Word.max64

theorem Chronicle.sized {config : Config} {audit : AuditLog} {disk : Disk} {runner : Runner} {supply : Supply}
    (run : Chronicle (.ofConfig config audit disk runner supply) notes e)
    (readable : ∀ n, (supply.clock n).Expressible) (budget : config.retry.maxAttempts ≤ Word.max32)
    (counted : e.registry.history.events.length ≤ Word.max64) : e.IsSized := by
  have reachable : Engine.Reachable (.ofConfig config audit disk runner supply) := .start ..
  obtain ⟨clock, told, registry⟩ := run.proceeds reachable
  constructor
  · intro n
    rw [clock]
    exact readable n
  · have small : max config.retry.maxAttempts 1 ≤ Word.max32 := Nat.max_le.mpr ⟨budget, by decide⟩
    exact (run.passage reachable).timed readable (limited_empty config.policy _ _) small (List.forall_mem_nil _)
  · intro t member
    have shown : ∀ time, IsReading supply.clock time → time.Expressible := by
      rintro _ ⟨n, rfl⟩
      exact readable n
    have timed := (registry.mono shown).timed (List.forall_mem_nil _) t member
    have wellFormed := registry.wellFormed (List.forall_mem_nil _) t member
    exact ⟨wellFormed.isInt64_durationMillis timed⟩
  · intro event member
    obtain ⟨i, within, there⟩ := List.mem_iff_getElem.mp member
    have sequence : event.sequence = i :=
      (run.reachable reachable).sound.documented.numbered i event (List.getElem?_eq_some_iff.mpr ⟨within, there⟩)
    exact sequence ▸ Nat.le_trans (Nat.le_of_lt within) counted

namespace IsSized

theorem grouped (sized : e.IsSized) {task : TaskId} {h : TaskHistory}
    (found : e.registry.grouped task = some h) : h.IsSized := by
  obtain ⟨member, latest, events⟩ := Registry.mem_of_grouped found
  exact ⟨sized.tasks _ member, sized.events _ latest, fun event listed => sized.events event (events event listed)⟩

theorem taskHistory (sized : e.IsSized) {task : TaskId} {h : TaskHistory}
    (success : (e.taskHistory task).2 = .ok h) : h.IsSized := by
  cases found : e.registry.grouped task with
  | none =>
    simp only [Engine.taskHistory, Registry.taskHistory, found, answer] at success
    cases success
  | some group =>
    simp only [Engine.taskHistory, Registry.taskHistory, found, answer] at success
    obtain rfl := Except.ok.inj success
    exact sized.grouped found

theorem listHistory (sized : e.IsSized) (filter : HistoryFilter) : ∀ h ∈ e.listHistory filter, h.IsSized := by
  intro h listed
  obtain ⟨task, _, found⟩ := List.mem_filterMap.mp (List.mem_filter.mp listed).1
  exact sized.grouped found

/-- The views of a list of entries are of entries of the queue. -/
theorem listQueue (sized : e.IsSized) (filter : QueueFilter) :
    ∃ (now : Instant) (entries : List QueueEntry),
      (e.listQueue filter).2 = entries.map (·.view now) ∧ ∀ q ∈ entries, q.IsSized := by
  refine ⟨e.now.1, e.queue.list filter, rfl, fun q listed => ?_⟩
  have member := (List.mem_filter.mp (List.mem_mergeSort.mp listed)).1
  exact (sized.entries q member).toIsSized

theorem find? (sized : e.IsSized) {q : QueueEntry} (found : e.queue.find? id = some q) : q.IsTimed :=
  sized.entries q (Queue.mem_of_find? found).1

theorem queueEntry (sized : e.IsSized) {v : EntryView} (success : (e.queueEntry id).2 = .ok v) :
    ∃ (now : Instant) (entry : QueueEntry), v = entry.view now ∧ entry.IsSized := by
  cases found : e.queue.find? id with
  | none =>
    simp only [Engine.queueEntry, Queue.get, found] at success
    cases success
  | some q =>
    simp only [Engine.queueEntry, Queue.get, found] at success
    exact ⟨e.now.1, q, (Except.ok.inj success).symm, (sized.find? found).toIsSized⟩

theorem setRetryMode (sized : e.IsSized) {mode : RetryMode} {actor : String} {v : EntryView}
    (success : (e.setRetryMode id mode actor).2 = .ok v) :
    ∃ (now : Instant) (entry : QueueEntry), v = entry.view now ∧ entry.IsSized := by
  cases found : e.queue.find? id with
  | none =>
    simp only [Engine.setRetryMode, queue_now, Queue.setMode_eq, found] at success
    cases success
  | some q =>
    simp only [Engine.setRetryMode, queue_now, Queue.setMode_eq, found] at success
    refine ⟨e.now.1, _, (Except.ok.inj success).symm, ?_⟩
    exact (Queue.withMode_timed (sized.find? found) (sized.clock _) mode _).toIsSized

theorem retry (sized : e.IsSized) {c : RetryCommand} {entry : QueueEntry} (success : (e.retry id c).2 = .ok entry) :
    entry.IsSized := by
  cases claimed : e.queue.claim id c.actor c.note c.force e.now.1 with
  | mk queue answer =>
    cases answer with
    | error r =>
      simp only [Engine.retry, Engine.claim, queue_now, claimed] at success
      cases success
    | ok taken =>
      obtain ⟨q, found, rfl, _, takes⟩ := Queue.claim_takes claimed
      have same : taken.entry.id = q.id := congrArg Standing.id takes.standing
      rcases retry_of_claim claimed (Queue.attach_of_claim found same) with
        ⟨⟨r, failure⟩, _⟩ | ⟨task, ⟨r, failure⟩ | answer, _⟩
      · rw [failure] at success
        cases success
      · rw [failure] at success
        cases success
      · rw [answer] at success
        rw [← Except.ok.inj success]
        exact (takes.timed (sized.clock _) (sized.find? found).toIsSized (some task)).toIsSized

/-- The time to wait that a refused retry names is not too long for a word. -/
theorem wait_le (sized : e.IsSized) {c : RetryCommand} {entry : EntryId} {wait : Nat}
    (failure : (e.retry id c).2 = .error (.notEligible entry (.coolingDown wait))) : wait ≤ Word.max64 := by
  cases result : e.retry id c with
  | mk after answer =>
    rw [result] at failure
    obtain rfl : answer = _ := failure
    obtain ⟨queue, claimed, _⟩ := claim_of_retry_refused result rfl
    obtain ⟨q, ending, found, cools, rfl⟩ := Queue.claim_waits claimed
    exact Queue.waitSeconds_le ((sized.find? found).cooldownUntil ending cools.cooldown) (sized.clock _)

end IsSized
end Engine
end Reindexing
