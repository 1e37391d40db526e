import Reindexing.Proofs.Engine.Retrying

/-!
# Retries are all or nothing

A retry changes the queue before it knows whether the scope of its entry is free.
If it is, the entry names a new task that runs; if it is not, the claim is rolled
back, and the entry is as it was, whatever the claim had changed: attempts, note,
mode and times. The audit trail tells of the claim and of the rollback. Nothing
else is touched in either case, and nothing at all if the claim is refused.
-/
namespace Reindexing

/-- A claim is refused because of its entry. -/
theorem Queue.isOfEntry_of_claim {q after : Queue} {id : EntryId} {actor : String} {note : Option String}
    {force : Bool} {now : Instant} {r : Refusal}
    (failure : q.claim id actor note force now = (after, .error r)) : r.isOfEntry = true := by
  cases found : q.find? id with
  | none =>
    simp only [claim, found] at failure
    cases failure
    rfl
  | some s =>
    by_cases running : s.status = .running
    · rw [claim_of_running found running] at failure
      cases failure
      rfl
    · rw [claim_of_idle found running] at failure
      split at failure
      · cases failure
      · cases failure
        rfl

namespace Engine

variable {e after : Engine} {id : EntryId} {now : Instant}

/-! ### The trail of claims and rollbacks -/

theorem trail_recordMutations (ms : List Mutation) (e : Engine) :
    (ms.foldl recordMutation e).trail = e.audit.appendAll e.disk (ms.map .mutation) := by
  induction ms generalizing e with
  | nil => rfl
  | cons m rest ih =>
    have first : (e.recordMutation m).trail = e.audit.appendAll e.disk [.mutation m] := e.trail_record _
    rw [List.foldl_cons, ih, show (e.recordMutation m).audit = _ from congrArg Prod.fst first,
      show (e.recordMutation m).disk = _ from congrArg Prod.snd first]
    rfl

theorem trail_claim {c : RetryCommand} {queue : Queue} {taken : Claim}
    (claimed : e.queue.claim id c.actor c.note c.force now = (queue, .ok taken)) :
    (e.claim id c now).1.trail = e.audit.appendAll e.disk (taken.mutations.map .mutation) := by
  simp only [Engine.claim, claimed]
  exact trail_recordMutations ..

theorem trail_release {taken : Claim} {queue : Queue} {m : Mutation}
    (released : e.queue.release taken now = (queue, some m)) :
    (e.release taken now).trail = e.audit.appendAll e.disk [.mutation m] := by
  simp only [Engine.release, released]
  exact trail_record ..

/-! ### The two ways a retry goes on after its claim -/

/-- A new task runs for the entry, and nothing else has changed. -/
structure Resubmitted (e after : Engine) (q entry : QueueEntry) : Prop where
  queue : after.queue = e.queue.replace entry
  stored : after.queue.find? q.id = some entry
  others : ∀ id ≠ q.id, after.queue.find? id = e.queue.find? id
  attempts : entry.attempts = min (q.attempts + 1) Word.max32
  status : entry.status = .running
  cooldown : entry.cooldownUntil = none
  task : ∃ t : Task, after.registry.tasks = e.registry.tasks ++ [t] ∧
    (∀ u ∈ e.registry.tasks, u.id ≠ t.id) ∧ t.status = .running ∧ t.scope = q.scope ∧
    t.retryOf = some q.id ∧ entry.currentTask = some t.id

/-- The entry was put back as it was, which the trail tells after what it tells of the claim, and nothing
else has changed. -/
structure RolledBack (e after : Engine) (q entry : QueueEntry) (told : List Mutation) (now : Instant) : Prop where
  registry : after.registry = e.registry
  restored : entry = (q.clearElapsed now).touch now
  queue : after.queue = e.queue.replace entry
  stored : after.queue.find? q.id = some entry
  others : ∀ id ≠ q.id, after.queue.find? id = e.queue.find? id
  trail : after.trail =
    e.audit.appendAll e.disk (told.map .mutation ++ [.mutation ⟨.released, entry, none, now⟩])
  /-- The records in memory are the old ones and those that are told, less the oldest for which there is
  no room. -/
  gained : 0 < e.audit.limit → after.audit.records =
    (e.audit.records ++ (told.map AuditRecord.mutation ++ [AuditRecord.mutation ⟨.released, entry, none, now⟩])).drop
      (e.audit.excess (told.length + 1))

section
variable {q : QueueEntry} {c : RetryCommand} {queue : Queue} {taken : Claim}
  (found : e.queue.find? q.id = some q)
  (claimed : e.queue.claim q.id c.actor c.note c.force e.now.1 = (queue, .ok taken))
include found claimed

theorem retry_resubmits (coherent : Coherent e.stores.view []) (free : ¬ e.registry.Busy q.scope)
    (distinct : (e.retry q.id c).1.stores.Distinct) :
    ∃ entry, (e.retry q.id c).2 = .ok entry ∧ e.Resubmitted (e.retry q.id c).1 q entry := by
  obtain ⟨other, same, rfl, _, takes⟩ := Queue.claim_takes claimed
  obtain rfl := Option.some.inj (found.symm.trans same)
  have id_eq : taken.entry.id = q.id := congrArg Standing.id takes.standing
  have scope : taken.entry.scope = q.scope := congrArg Standing.scope takes.standing
  obtain ⟨t, ⟨last, success⟩, ⟨status, retryOf, holds, _⟩, fresh, tasks, moved⟩ :=
    retry_of_free coherent claimed (Queue.attach_of_claim found id_eq) (scope.symm ▸ free) distinct
  have queue : (e.retry q.id c).1.queue = e.queue.replace { taken.entry with currentTask := some t.id } :=
    congrArg (fun m : Moment => m.queue) moved
  refine ⟨_, congrArg Prod.snd success, ⟨queue, ?_, fun id other => ?_, takes.attempts,
    congrArg Standing.status takes.standing, takes.cooldown,
    t, tasks, fresh, status, holds.trans scope, retryOf, rfl⟩⟩
  · rw [queue]
    exact Queue.find?_replace found id_eq
  · rw [queue]
    exact e.queue.find?_replace_of_ne (id_eq ▸ other)

theorem retry_rolls_back (busy : e.registry.Busy q.scope) :
    ∃ active, (e.retry q.id c).2 = .error (.scopeBusy q.scope active) ∧
      ∃ entry, e.RolledBack (e.retry q.id c).1 q entry taken.mutations e.now.1 := by
  obtain ⟨other, same, rfl, previous, takes⟩ := Queue.claim_takes claimed
  obtain rfl := Option.some.inj (found.symm.trans same)
  have id_eq : taken.entry.id = q.id := congrArg Standing.id takes.standing
  have scope : taken.entry.scope = q.scope := congrArg Standing.scope takes.standing
  -- What the claim changed is undone by putting back the entry that it kept from before.
  have kept : ((q.clearElapsed e.now.1).touch e.now.1).id = q.id := q.id_clearElapsed e.now.1
  have released := Queue.release_of_claim found previous id_eq
  obtain ⟨holding, active, ⟨claims, stores, _⟩, result⟩ := retry_of_busy claimed (scope.symm ▸ busy)
  obtain ⟨registry, moved⟩ := rolled_back claimed (scope.symm ▸ busy)
  have queue : (e.retry q.id c).1.queue = e.queue.replace ((q.clearElapsed e.now.1).touch e.now.1) := by
    refine (congrArg (fun m : Moment => m.queue) moved).trans ?_
    rw [released]
  have trail : (e.retry q.id c).1.trail = e.audit.appendAll e.disk (taken.mutations.map .mutation ++
      [.mutation ⟨.released, (q.clearElapsed e.now.1).touch e.now.1, none, e.now.1⟩]) := by
    have told : holding.trail = e.audit.appendAll e.disk (taken.mutations.map .mutation) := by
      have trail := trail_claim (e := e.now.2) claimed
      rw [claims] at trail
      exact trail
    have held : (holding.countRefusal (.scopeBusy taken.entry.scope active)).queue.release taken e.now.1 = _ :=
      (congrArg (Queue.release · taken e.now.1) (congrArg Stores.queue stores)).trans released
    rw [result, trail_release held, AuditLog.appendAll_append, ← told]
    rfl
  refine ⟨active, by rw [result, scope], _, registry, rfl, queue, ?_, fun id other => ?_, trail, fun positive => ?_⟩
  · rw [queue]
    exact Queue.find?_replace found kept
  · rw [queue]
    exact e.queue.find?_replace_of_ne (kept ▸ other)
  · rw [show (e.retry q.id c).1.audit = _ from congrArg Prod.fst trail, (AuditLog.appendAll_gains positive ..).1,
      List.length_append, List.length_map, List.length_singleton]

end

/-- The three ways a retry of an entry ends. -/
theorem retry_cases (h : e.Reachable) {q : QueueEntry} (member : q ∈ e.queue.entries) (c : RetryCommand)
    (distinct : (e.retry q.id c).1.supply.Distinct) :
    (∃ entry, (e.retry q.id c).2 = .ok entry ∧ e.Resubmitted (e.retry q.id c).1 q entry) ∨
    (∃ active queue taken entry, (e.retry q.id c).2 = .error (.scopeBusy q.scope active) ∧
      e.queue.claim q.id c.actor c.note c.force e.now.1 = (queue, .ok taken) ∧
      e.RolledBack (e.retry q.id c).1 q entry taken.mutations e.now.1) ∨
    ∃ r, (e.retry q.id c).2 = .error r ∧ r.isOfEntry = true ∧ e.Untouched (e.retry q.id c).1 := by
  have found : e.queue.find? q.id = some q := (sound_books h.coherent).find?_of_mem member
  cases claimed : e.queue.claim q.id c.actor c.note c.force e.now.1 with
  | mk queue claim =>
    cases claim with
    | error r =>
      -- Such a refusal is never taken for a busy scope, which is found only after the claim.
      have ofEntry := Queue.isOfEntry_of_claim claimed
      have refused : (e.retry q.id c).2 = .error r := by
        simp only [retry, Engine.claim, queue_now, claimed]
      exact .inr (.inr ⟨r, refused, ofEntry, retry_refused h (Prod.ext rfl refused) ofEntry⟩)
    | ok taken =>
      by_cases busy : e.registry.Busy q.scope
      · obtain ⟨active, refused, entry, back⟩ := retry_rolls_back found claimed busy
        exact .inr (.inl ⟨active, queue, taken, entry, refused, rfl, back⟩)
      · exact .inl (retry_resubmits found claimed h.coherent busy distinct)

/-- A retry of an entry succeeds, is rolled back or is refused. If it succeeds, it answers the entry as it
now stands: its retry is running, one more attempt is counted, and it names the one task that was added.
If the scope turns out to be busy, the entry is as it was, but for the time it was touched and a cooldown
that had ended, and the trail has gained what it tells of the claim and of the rollback. In every other
case nothing has changed. -/
theorem retry_is_all_or_nothing (h : e.Reachable) {q : QueueEntry} (member : q ∈ e.queue.entries)
    (c : RetryCommand) {answer : Except Refusal QueueEntry} (result : e.retry q.id c = (after, answer))
    (distinct : after.supply.Distinct) :
    (∀ entry, answer = .ok entry → e.Resubmitted after q entry) ∧
    (∀ scope active, answer = .error (.scopeBusy scope active) →
      ∃ queue taken entry, e.queue.claim q.id c.actor c.note c.force e.now.1 = (queue, .ok taken) ∧
        e.RolledBack after q entry taken.mutations e.now.1) ∧
    ∀ r, answer = .error r → (∀ scope active, r ≠ .scopeBusy scope active) → e.Untouched after := by
  obtain rfl : (e.retry q.id c).1 = after := congrArg Prod.fst result
  obtain rfl : (e.retry q.id c).2 = answer := congrArg Prod.snd result
  rcases retry_cases h member c distinct with ⟨entry, success, resubmitted⟩ |
    ⟨active, queue, taken, entry, refused, claimed, back⟩ | ⟨r, refused, ofEntry, untouched⟩
  · rw [success]
    refine ⟨fun other same => ?_, fun scope active same => ?_, fun r same _ => ?_⟩
    · cases same
      exact resubmitted
    · cases same
    · cases same
  · rw [refused]
    refine ⟨fun other same => ?_, fun _ _ _ => ⟨queue, taken, entry, claimed, back⟩, fun r same other => ?_⟩
    · cases same
    · cases same
      exact absurd rfl (other q.scope active)
  · rw [refused]
    refine ⟨fun entry same => ?_, fun scope active same => ?_, fun _ _ _ => untouched⟩
    · cases same
    · cases same
      cases ofEntry

/-- A retry of an exhausted entry is forced twice: it succeeds, and it is rolled back when somebody has
submitted the scope meanwhile, although the claim had switched the entry to manual mode. -/
theorem forced_retries_of_an_exhausted_entry :
    ∃ (e busy : Engine) (q : QueueEntry) (c : RetryCommand), e.Reachable ∧ busy.Reachable ∧
      q ∈ e.queue.entries ∧ q ∈ busy.queue.entries ∧ q.isAutoExhausted = true ∧
      (∃ after entry, e.retry q.id c = (after, .ok entry) ∧ after.supply.Distinct ∧
        e.Resubmitted after q entry) ∧
      ∃ after active entry told, busy.retry q.id c = (after, .error (.scopeBusy .all active)) ∧
        after.supply.Distinct ∧ told.map (·.kind) = [.modeChanged, .claimed] ∧
        busy.RolledBack after q entry told busy.now.1 := by
  let c : RetryCommand := ⟨"ops", some "again", true⟩
  obtain ⟨e, busy, q, reachable, reachable_busy, member, member_busy, used, succeeds, refused, distinct,
      distinct_busy⟩ : ∃ (e busy : Engine) (q : QueueEntry), e.Reachable ∧ busy.Reachable ∧
        q ∈ e.queue.entries ∧ q ∈ busy.queue.entries ∧
        q.isAutoExhausted = true ∧ (e.retry q.id c).2.isOk = true ∧
        (busy.retry q.id c).2 = .error (.scopeBusy .all ⟨.ofNat 2⟩) ∧
        (e.retry q.id c).1.supply.Distinct ∧ (busy.retry q.id c).1.supply.Distinct := by
    let config : Config := { Config.default with retry := ⟨1, .ofSeconds 30, .ofSeconds 1800, 0.1⟩ }
    let supply : Supply :=
      ⟨fun n => ⟨10 * n, 0⟩, fun n => ⟨.ofNat n⟩, fun n => ⟨.ofNat n⟩, fun _ => 0, 0, 0, 0, 0⟩
    let submitted := (Engine.ofConfig config (.inMemory 100) .empty .parked supply).perform
      (.submit ⟨.all, "ops", none, none⟩)
    let failed := submitted.perform (.recordOutcome ⟨.ofNat 0⟩ (.failure "E1" none))
    let retried := failed.perform (.retry ⟨.ofNat 0⟩ c)
    let e := retried.perform (.recordOutcome ⟨.ofNat 1⟩ (.failure "E2" none))
    let busy := e.perform (.submit ⟨.all, "ops", none, none⟩)
    have reachable : e.Reachable := ((((Reachable.start ..).call _ (by decide)).call _
      (by decide +kernel)).call _ (by decide +kernel)).call _ (by decide +kernel)
    have reachable_busy : busy.Reachable := reachable.call _ (by decide +kernel)
    have facts : ∃ q ∈ e.queue.entries, q ∈ busy.queue.entries ∧ q.isAutoExhausted = true ∧
        (e.retry q.id c).2.isOk = true ∧ (busy.retry q.id c).2 = .error (.scopeBusy .all ⟨.ofNat 2⟩) ∧
        (e.retry q.id c).1.supply.Distinct ∧ (busy.retry q.id c).1.supply.Distinct := by
      decide +kernel
    obtain ⟨q, member, rest⟩ := facts
    exact ⟨e, busy, q, reachable, reachable_busy, member, rest⟩
  cases success : e.retry q.id c with
  | mk after answer =>
    rw [success] at succeeds distinct
    cases answer with
    | error r => cases succeeds
    | ok entry =>
      have resubmitted := (retry_is_all_or_nothing reachable member c success distinct).1 entry rfl
      have failure : busy.retry q.id c =
          ((busy.retry q.id c).1, .error (.scopeBusy .all ⟨.ofNat 2⟩)) := Prod.ext rfl refused
      obtain ⟨queue, taken, back, claimed, rolledBack⟩ :=
        (retry_is_all_or_nothing reachable_busy member_busy c failure distinct_busy).2.1 _ _ rfl
      obtain ⟨other, found, _, _, _, rfl⟩ := Queue.claim_succeeds claimed
      have same := (sound_books reachable_busy.coherent).find?_of_mem member_busy
      obtain rfl : q = other := Option.some.inj (same.symm.trans found)
      refine ⟨e, busy, q, c, reachable, reachable_busy, member, member_busy, used,
        ⟨after, entry, success, distinct, resubmitted⟩, _, _, back, _, failure, distinct_busy, ?_, rolledBack⟩
      simp [Queue.claimOf, used]

end Engine

end Reindexing
