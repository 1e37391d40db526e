import Reindexing.Proofs.Engine.Passages

/-!
# The budget of automatic attempts

An attempt that left its entry in automatic mode is spent for good: no change of
an entry lowers the part of its attempts that lies within the budget, and such a
retry raises it by one. Rollbacks restore it, operators may pass it in manual
mode, and a switch back to automatic mode cuts only what lies beyond. So no
entry gets more automatic attempts than the budget, and one that has used them up
is not retried by the scheduler again.
-/
namespace Reindexing

/-- Whether a retry of this entry is noted that left it in automatic mode. -/
def Note.isAutoRetry (id : EntryId) : Note → Bool
  | .failure .. => false
  | .retried a => decide (a.before.id = id) && decide (a.after.mode = .auto)

/-- How often an entry was retried and stayed in automatic mode. -/
def autoRetries (id : EntryId) (notes : List Note) : Nat := notes.countP (Note.isAutoRetry id)

@[simp] theorem autoRetries_append (id : EntryId) (notes more : List Note) :
    autoRetries id (notes ++ more) = autoRetries id notes + autoRetries id more :=
  List.countP_append

/-- The attempts within the budget. -/
def QueueEntry.spent (e : QueueEntry) : Nat := min e.attempts e.maxAttempts

theorem QueueEntry.spent_clearElapsed (e : QueueEntry) (now : Instant) :
    (e.clearElapsed now).spent = e.spent :=
  e.clearElapsed_keeps now spent rfl

/-! ### One change -/

section
variable {q : Queue} {now : Instant} {e next : QueueEntry} {notes new : List Note} {b after : Books}
  {budget : Nat} {id : EntryId}

theorem autoRetries_eq_zero (others : ∀ n ∈ notes, n.entry ≠ id) : autoRetries id notes = 0 := by
  refine List.countP_eq_zero.mpr fun n noted counted => others n noted ?_
  cases n with
  | failure => cases counted
  | retried a =>
    simp only [Note.isAutoRetry, Bool.and_eq_true, decide_eq_true_eq] at counted
    exact counted.1

/-- A claim that keeps automatic mode spends an attempt. -/
theorem QueueEntry.Taken.spent_le {force : Bool} {taken : QueueEntry} (takes : e.Taken force now taken)
    (small : e.maxAttempts ≤ Word.max32) :
    e.spent + (if taken.mode = .auto then 1 else 0) ≤ taken.spent := by
  have attempts := takes.attempts
  have maxAttempts := takes.maxAttempts
  unfold spent
  split
  · next auto =>
    have left := (takes.auto auto).2
    omega
  · omega

/-- No change lowers what is spent, and an automatic retry raises it. -/
theorem Alters.spends (alters : Alters q now e notes next) (small : e.maxAttempts ≤ Word.max32) :
    e.spent + autoRetries e.id notes ≤ next.spent := by
  cases alters with
  | failed | retryFailed => exact Nat.le_refl _
  | modeSet mode draw =>
    cases mode with
    | manual => exact Nat.le_refl _
    | auto =>
      change min e.attempts e.maxAttempts ≤ min (min e.attempts e.maxAttempts) e.maxAttempts
      omega
  | cooldownEnded => exact Nat.le_of_eq (e.spent_clearElapsed now).symm
  | rolledBack => exact Nat.le_of_eq (e.spent_clearElapsed now).symm
  | @retried force taken notes task takes noted =>
    have spent := takes.spent_le small
    change _ ≤ taken.spent
    rcases noted with rfl | rfl
    · exact Nat.le_trans (Nat.le_add_right _ _) spent
    · simpa [autoRetries, Note.isAutoRetry, List.countP_cons] using spent

/-! ### The queue -/

/-- Every entry has the budget of the queue, and an identifier that was given to it. -/
structure Limited (budget : Nat) (b : Books) : Prop where
  queue : b.queue.maxAttempts = budget
  entries : ∀ e ∈ b.queue.entries, e.maxAttempts = budget
  issued : ∀ e ∈ b.queue.entries, e.id ∈ b.entryIds

/-- What was spent covers the automatic retries that were noted. -/
structure Covered (budget : Nat) (notes : List Note) (b : Books) : Prop where
  spent : ∀ e ∈ b.queue.entries, autoRetries e.id notes ≤ e.spent
  total : ∀ id, autoRetries id notes ≤ budget
  unknown : ∀ id, id ∉ b.entryIds → autoRetries id notes = 0

/-- The entry with this identifier has used up its budget, or is gone. -/
structure Exhausted (id : EntryId) (b : Books) : Prop where
  issued : id ∈ b.entryIds
  entries : ∀ e ∈ b.queue.entries, e.id = id → e.maxAttempts ≤ e.attempts

theorem Change.limited (change : Change now b new after) (before : Limited budget b) :
    Limited budget after where
  queue := change.queue_fixed.1.trans before.queue
  entries := by
    intro next member
    rcases change.origin before.issued member with ⟨old, _⟩ | ⟨e, known, alters⟩ | ⟨_, _, _, new, _⟩
    · exact before.entries next old
    · exact alters.keeps.2.trans (before.entries e known)
    · exact (congrArg QueueEntry.maxAttempts new).trans before.queue
  issued := change.issued before.issued

/-- Automatic retries are noted only of the one entry that a change alters. -/
theorem Change.autoRetries_cases (change : Change now b new after) (id : EntryId) :
    autoRetries id new = 0 ∨ ∃ e ∈ b.queue.entries, e.id = id ∧ ∃ next, Alters b.queue now e new next := by
  cases change with
  | @altered _ e next notes known alters =>
    by_cases same : e.id = id
    · exact .inr ⟨e, known, same, next, alters⟩
    · refine .inl (autoRetries_eq_zero fun n noted about => same ?_)
      rw [← about, alters.entry_of_mem noted]
  | _ => exact .inl rfl

theorem Change.covered (change : Change now b new after) (limited : Limited budget b)
    (small : budget ≤ Word.max32) (before : Covered budget notes b) :
    Covered budget (notes ++ new) after := by
  have small_entry : ∀ e ∈ b.queue.entries, e.maxAttempts ≤ Word.max32 :=
    fun e known => Nat.le_trans (Nat.le_of_eq (limited.entries e known)) small
  constructor
  · intro next member
    rw [autoRetries_append]
    rcases change.origin limited.issued member with ⟨old, others⟩ | ⟨e, known, alters⟩ |
      ⟨_, _, _, _, rfl, unknown, _⟩
    · rw [autoRetries_eq_zero others]
      exact before.spent next old
    · have spends := alters.spends (small_entry e known)
      have covered := before.spent e known
      rw [alters.keeps.1]
      omega
    · rw [before.unknown next.id unknown]
      exact Nat.zero_le _
  · intro id
    rw [autoRetries_append]
    rcases change.autoRetries_cases id with nothing | ⟨e, known, rfl, next, alters⟩
    · rw [nothing]
      exact before.total id
    · have spends := alters.spends (small_entry e known)
      have covered := before.spent e known
      have within : next.spent ≤ next.maxAttempts := Nat.min_le_right _ _
      rw [alters.keeps.2, limited.entries e known] at within
      omega
  · intro id unknown
    have unknown_before : id ∉ b.entryIds := fun known => unknown (change.ids_grow id known)
    rw [autoRetries_append, before.unknown id unknown_before]
    rcases change.autoRetries_cases id with nothing | ⟨e, known, rfl, _⟩
    · rw [nothing]
    · exact absurd (limited.issued e known) unknown_before

theorem Change.exhausted (change : Change now b new after) (limited : Limited budget b)
    (small : budget ≤ Word.max32) (before : Exhausted id b) : Exhausted id after where
  issued := change.ids_grow id before.issued
  entries := by
    intro next member same
    rcases change.origin limited.issued member with ⟨old, _⟩ | ⟨e, known, alters⟩ |
      ⟨_, _, _, _, _, unknown, _⟩
    · exact before.entries next old same
    · have spends := alters.spends (Nat.le_trans (Nat.le_of_eq (limited.entries e known)) small)
      obtain ⟨id_eq, max_eq⟩ := alters.keeps
      have used := before.entries e known (id_eq.symm.trans same)
      unfold QueueEntry.spent at spends
      omega
    · exact absurd before.issued (same ▸ unknown)

/-! ### Runs -/

variable {m later : Moment}

theorem Passage.limited (passage : Passage m notes later) (before : Limited budget m.toBooks) :
    Limited budget later.toBooks := by
  induction passage with
  | wait => exact before
  | change change => exact change.limited before
  | trans _ _ first second => exact second (first before)

theorem Passage.covered {past : List Note} (passage : Passage m notes later)
    (limited : Limited budget m.toBooks) (small : budget ≤ Word.max32)
    (before : Covered budget past m.toBooks) : Covered budget (past ++ notes) later.toBooks := by
  induction passage generalizing past with
  | wait => rwa [List.append_nil]
  | change change => exact change.covered limited small before
  | trans passage _ first second =>
    rw [← List.append_assoc]
    exact second (passage.limited limited) (first limited before)

theorem Passage.exhausted (passage : Passage m notes later) (limited : Limited budget m.toBooks)
    (small : budget ≤ Word.max32) (before : Exhausted id m.toBooks) : Exhausted id later.toBooks := by
  induction passage with
  | wait => exact before
  | change change => exact change.exhausted limited small before
  | trans passage _ first second => exact second (passage.limited limited) (first limited before)

end

namespace Engine

theorem limited_empty (policy : CooldownPolicy) (maxAttempts : Nat) (ids : List EntryId) :
    Limited (max maxAttempts 1) ⟨.empty policy maxAttempts, ids⟩ := by
  constructor
  · rfl
  · intro e member
    cases member
  · intro e member
    cases member

theorem covered_empty (budget : Nat) (policy : CooldownPolicy) (maxAttempts : Nat) (ids : List EntryId) :
    Covered budget [] ⟨.empty policy maxAttempts, ids⟩ := by
  refine ⟨fun e member => ?_, fun _ => Nat.zero_le _, fun _ _ => rfl⟩
  cases member

theorem retried_subset_due (e : Engine) (ids : List EntryId) : (e.retryAll ids).2.1 ⊆ ids := by
  induction ids generalizing e with
  | nil => exact List.Subset.refl []
  | cons id rest ih =>
    have tail := ih (e.retryOne id).1
    have retried : (e.retryAll (id :: rest)).2.1 =
        if (e.retryOne id).2 then id :: ((e.retryOne id).1.retryAll rest).2.1
        else ((e.retryOne id).1.retryAll rest).2.1 := by
      rw [retryAll]
      rcases e.retryOne id with ⟨next, _ | _⟩ <;> rfl
    rw [retried]
    split
    · exact List.cons_subset_cons id tail
    · exact List.subset_cons_of_subset id tail

/-- The scheduler does not retry an entry that has used up its budget. -/
theorem not_retried_of_exhausted {e : Engine} {id : EntryId} (exhausted : Exhausted id e.swept.books) :
    id ∉ e.tick.2.retried := by
  intro retried
  rw [tick_retried] at retried
  have due : id ∈ e.swept.queue.eligibleAuto e.swept.now.1 := e.swept.now.2.retried_subset_due e.due retried
  obtain ⟨entry, member, same, auto, ready⟩ := Queue.mem_eligibleAuto.mp due
  have left := ((QueueEntry.isEligible_auto auto).mp ready).2.1
  exact Nat.not_le.mpr left (exhausted.entries entry member same)

/-- The budget of automatic attempts holds over the whole life of an entry: the retries that leave
it in automatic mode are at most as many as the queue allows, and an entry that has used them up is
retried by no later pass of the scheduler. -/
theorem automatic_attempts_stay_within_the_budget {config : Config} {audit : AuditLog} {disk : Disk}
    {runner : Runner} {supply : Supply} {notes : List Note} {e : Engine}
    (small : config.retry.maxAttempts ≤ Word.max32)
    (run : Chronicle (.ofConfig config audit disk runner supply) notes e) :
    (∀ id, autoRetries id notes ≤ e.queue.maxAttempts) ∧
    ∀ q ∈ e.queue.entries, q.isAutoExhausted = true → ∀ later after, Chronicle e later after →
      (after.perform .tick).supply.Distinct → q.id ∉ after.tick.2.retried := by
  have small_budget : max config.retry.maxAttempts 1 ≤ Word.max32 := Nat.max_le.mpr ⟨small, by decide⟩
  have start := Reachable.start config audit disk runner supply
  have passage := run.passage start
  have limited_start : Limited (max config.retry.maxAttempts 1)
      (Engine.ofConfig config audit disk runner supply).books := limited_empty ..
  have limited := passage.limited limited_start
  constructor
  · intro id
    have covered_start : Covered (max config.retry.maxAttempts 1) []
        (Engine.ofConfig config audit disk runner supply).books := covered_empty ..
    have covered := passage.covered limited_start small_budget covered_start
    exact limited.queue ▸ covered.total id
  · intro q member used later after onward distinct
    have reachable := run.reachable start
    have exhausted : Exhausted q.id e.books := by
      refine ⟨limited.issued q member, fun other known same => ?_⟩
      have unique := (sound_books reachable.coherent).unique_ids
      rw [Keyed.eq_of_key unique known member same]
      exact (QueueEntry.isAutoExhausted_iff.mp used).2
    have onward_passage := onward.passage reachable
    have exhausted_after := onward_passage.exhausted limited small_budget exhausted
    have sweep := swept_passage (onward.reachable reachable).coherent (distinct_swept distinct)
    exact not_retried_of_exhausted
      (sweep.exhausted (onward_passage.limited limited) small_budget exhausted_after)

/-- The scheduler retries the entry of a failed scope, which uses up a budget of one attempt. An
operator retries it in manual mode and hands it back to the scheduler before that fails as well. -/
theorem budget_of_an_exhausted_entry :
    ∃ (config : Config) (supply : Supply) (notes : List Note) (e : Engine) (q : QueueEntry),
      config.retry.maxAttempts ≤ Word.max32 ∧
      Chronicle (.ofConfig config (.inMemory 100) .empty .parked supply) notes e ∧
      q ∈ e.queue.entries ∧ q.isAutoExhausted = true ∧ autoRetries q.id notes = 1 ∧
      (∀ id, autoRetries id notes ≤ e.queue.maxAttempts) ∧
      ∀ later after, Chronicle e later after → (after.perform .tick).supply.Distinct →
        q.id ∉ after.tick.2.retried := by
  let config : Config := { Config.default with retry := ⟨1, .ofSeconds 30, .ofSeconds 1800, 0.1⟩ }
  let supply : Supply :=
    ⟨fun n => ⟨10 * n, 0⟩, fun n => ⟨.ofNat n⟩, fun n => ⟨.ofNat n⟩, fun _ => 0, 0, 0, 0, 0⟩
  let submitted := (Engine.ofConfig config (.inMemory 100) .empty .parked supply).perform
    (.submit ⟨.all, "ops", none, none⟩)
  let failed := submitted.perform (.recordOutcome ⟨.ofNat 0⟩ (.failure "E1" none))
  let retried := failed.perform .tick
  let manual := retried.perform (.setRetryMode ⟨.ofNat 0⟩ .manual "ops")
  let failedAgain := manual.perform (.recordOutcome ⟨.ofNat 1⟩ (.failure "E2" none))
  let repeated := failedAgain.perform (.retry ⟨.ofNat 0⟩ ⟨"ops", none, false⟩)
  let auto := repeated.perform (.setRetryMode ⟨.ofNat 0⟩ .auto "ops")
  let exhausted := auto.perform (.recordOutcome ⟨.ofNat 2⟩ (.failure "E3" none))
  have calls : Chronicle _ _ exhausted := ((((((((Chronicle.start).call _ (by decide)).call _
    (by decide)).call _ (by decide +kernel)).call _ (by decide +kernel)).call _
    (by decide +kernel)).call _ (by decide +kernel)).call _ (by decide +kernel)).call _
    (by decide +kernel)
  obtain ⟨notes, run, q, member, used, counted⟩ : ∃ notes,
      Chronicle (.ofConfig config (.inMemory 100) .empty .parked supply) notes exhausted ∧
      ∃ q ∈ exhausted.queue.entries, q.isAutoExhausted = true ∧ autoRetries q.id notes = 1 :=
    ⟨_, calls, by decide +kernel⟩
  obtain ⟨within, never⟩ := automatic_attempts_stay_within_the_budget (by decide) run
  exact ⟨config, supply, notes, exhausted, q, by decide, run, member, used, counted, within,
    never q member used⟩

end Engine

end Reindexing
