import Reindexing.Proofs.Queue.Operations
import Reindexing.Proofs.Time.Instants

/-!
# What a claim takes

A claim counts an attempt and leaves automatic mode only if the budget is used
up. So an entry that is still in automatic mode after its claim had an attempt
left, and a claim without force was allowed by the entry as it stood: that an
ended cooldown is dropped first makes no difference to that.
-/
namespace Reindexing

namespace QueueEntry

variable {e : QueueEntry} {now later : Instant}

theorem clearElapsed_eq (e : QueueEntry) (now : Instant) :
    e.clearElapsed now = e ∨ ∃ ending, e.cooldownUntil = some ending ∧ ending ≤ now ∧
      e.clearElapsed now = { e with cooldownUntil := none } := by
  unfold clearElapsed cooldownElapsed
  split
  · next elapsed =>
    obtain ⟨ending, cooldown, past⟩ := (Option.any_eq_true _ _).mp elapsed
    exact .inr ⟨ending, cooldown, of_decide_eq_true past, rfl⟩
  · exact .inl rfl

/-- Eligible entries in automatic mode have attempts left, and no cooldown that is still running. -/
theorem isEligible_auto (auto : e.mode = .auto) :
    e.isEligible now = true ↔ e.status ≠ .running ∧ e.attempts < e.maxAttempts ∧
      ∀ ending, e.cooldownUntil = some ending → ending ≤ now := by
  unfold isEligible
  split
  · next running => simp [running]
  · next idle =>
    rw [auto]
    cases cooldown : e.cooldownUntil with
    | none => simp [idle]
    | some ending => simp [idle]

theorem idle_of_isEligible (ready : e.isEligible now = true) : e.status ≠ .running := by
  intro running
  simp [isEligible, running] at ready

/-- An ended cooldown does not matter to whether an entry is eligible from then on. -/
theorem isEligible_clearElapsed (le : now ≤ later) :
    (e.clearElapsed now).isEligible later = e.isEligible later := by
  rcases e.clearElapsed_eq now with same | ⟨ending, cooldown, past, same⟩
  · rw [same]
  · rw [same]
    have ended : ending ≤ later := Instant.le_trans past le
    simp [isEligible, cooldown, ended]

theorem isAutoExhausted_iff : e.isAutoExhausted = true ↔ e.mode = .auto ∧ e.maxAttempts ≤ e.attempts := by
  simp [isAutoExhausted]

/-- An entry that has used up its automatic attempts is not eligible. -/
theorem not_isEligible_of_exhausted (exhausted : e.isAutoExhausted = true) : e.isEligible now = false := by
  obtain ⟨auto, used⟩ := isAutoExhausted_iff.mp exhausted
  rw [← Bool.not_eq_true, isEligible_auto auto]
  rintro ⟨_, left, _⟩
  omega

theorem isAutoExhausted_of_isEligible (ready : e.isEligible now = true) : e.isAutoExhausted = false := by
  rw [← Bool.not_eq_true]
  intro exhausted
  rw [not_isEligible_of_exhausted exhausted] at ready
  cases ready

/-- The entry waits for an automatic retry until its cooldown has ended. -/
structure CoolsDown (e : QueueEntry) (ending now : Instant) : Prop where
  idle : e.status ≠ .running
  auto : e.mode = .auto
  left : e.attempts < e.maxAttempts
  cooldown : e.cooldownUntil = some ending
  before : now < ending

theorem CoolsDown.isEligible_iff {ending : Instant} (cools : e.CoolsDown ending now) :
    e.isEligible later = true ↔ ending ≤ later := by
  rw [isEligible_auto cools.auto, cools.cooldown]
  simp [cools.idle, cools.left]

theorem CoolsDown.not_isEligible {ending : Instant} (cools : e.CoolsDown ending now) :
    e.isEligible now = false := by
  rw [← Bool.not_eq_true, cools.isEligible_iff, ← Instant.not_lt, not_not]
  exact cools.before

theorem CoolsDown.not_isAutoExhausted {ending : Instant} (cools : e.CoolsDown ending now) :
    e.isAutoExhausted = false := by
  simp [isAutoExhausted, cools.left]

/-- An entry that is not running is eligible, has used up its attempts or cools down. -/
theorem cases_of_idle (idle : e.status ≠ .running) (now : Instant) :
    e.isEligible now = true ∨ e.isAutoExhausted = true ∨ ∃ ending, e.CoolsDown ending now := by
  cases mode : e.mode with
  | manual => exact .inl (by simp [isEligible, idle, mode])
  | auto =>
    by_cases left : e.attempts < e.maxAttempts
    · cases cooldown : e.cooldownUntil with
      | none => exact .inl ((isEligible_auto mode).mpr ⟨idle, left, by simp [cooldown]⟩)
      | some ending =>
        by_cases ended : ending ≤ now
        · exact .inl ((isEligible_auto mode).mpr ⟨idle, left, by simp [cooldown, ended]⟩)
        · have before : now < ending := by rwa [← Instant.not_lt, not_not] at ended
          exact .inr (.inr ⟨ending, idle, mode, left, cooldown, before⟩)
    · exact .inr (.inl (isAutoExhausted_iff.mpr ⟨mode, Nat.not_lt.mp left⟩))

/-! ### Ended cooldowns -/

section clearElapsed
variable (e now)

/-- What an entry has with and without its cooldown, it has after an ended cooldown was dropped. -/
theorem clearElapsed_has {p : QueueEntry → Prop} (kept : p e) (dropped : p { e with cooldownUntil := none }) :
    p (e.clearElapsed now) := by
  rcases e.clearElapsed_eq now with same | ⟨_, _, _, same⟩
  · rwa [same]
  · rwa [same]

/-- What does not depend on the cooldown stays as it is. -/
theorem clearElapsed_keeps {α : Type} (f : QueueEntry → α) (kept : f { e with cooldownUntil := none } = f e) :
    f (e.clearElapsed now) = f e :=
  e.clearElapsed_has now (p := fun next => f next = f e) rfl kept

@[simp] theorem status_clearElapsed : (e.clearElapsed now).status = e.status :=
  e.clearElapsed_keeps now status rfl

@[simp] theorem mode_clearElapsed : (e.clearElapsed now).mode = e.mode := e.clearElapsed_keeps now mode rfl

@[simp] theorem attempts_clearElapsed : (e.clearElapsed now).attempts = e.attempts :=
  e.clearElapsed_keeps now attempts rfl

@[simp] theorem maxAttempts_clearElapsed : (e.clearElapsed now).maxAttempts = e.maxAttempts :=
  e.clearElapsed_keeps now maxAttempts rfl

@[simp] theorem lastAttemptAt_clearElapsed : (e.clearElapsed now).lastAttemptAt = e.lastAttemptAt :=
  e.clearElapsed_keeps now lastAttemptAt rfl

@[simp] theorem isAutoExhausted_clearElapsed : (e.clearElapsed now).isAutoExhausted = e.isAutoExhausted :=
  e.clearElapsed_keeps now isAutoExhausted rfl

/-- A cooldown that is still running is not dropped. -/
theorem CoolsDown.clearElapsed_eq {e : QueueEntry} {ending now : Instant} (cools : e.CoolsDown ending now) :
    e.clearElapsed now = e := by
  rcases e.clearElapsed_eq now with same | ⟨other, cooldown, past, _⟩
  · exact same
  · obtain rfl := Option.some.inj (cools.cooldown.symm.trans cooldown)
    exact absurd cools.before (Instant.not_lt.mpr past)

end clearElapsed

/-- The entry as a claim takes it up: without a cooldown that has ended, and in manual mode if it has
used up its automatic attempts. -/
def takenUp (e : QueueEntry) (now : Instant) : QueueEntry :=
  if e.isAutoExhausted then { e.clearElapsed now with mode := .manual }.touch now else e.clearElapsed now

@[simp] theorem standing_takenUp (e : QueueEntry) (now : Instant) : (e.takenUp now).standing = e.standing := by
  unfold takenUp
  split
  · exact e.standing_clearElapsed now
  · exact e.standing_clearElapsed now

@[simp] theorem attempts_takenUp (e : QueueEntry) (now : Instant) : (e.takenUp now).attempts = e.attempts := by
  unfold takenUp
  split
  · exact e.attempts_clearElapsed now
  · exact e.attempts_clearElapsed now

@[simp] theorem maxAttempts_takenUp (e : QueueEntry) (now : Instant) :
    (e.takenUp now).maxAttempts = e.maxAttempts := by
  unfold takenUp
  split
  · exact e.maxAttempts_clearElapsed now
  · exact e.maxAttempts_clearElapsed now

theorem takenUp_of_isEligible (ready : e.isEligible now = true) : e.takenUp now = e.clearElapsed now := by
  rw [takenUp, isAutoExhausted_of_isEligible ready, if_neg Bool.false_ne_true]

theorem mode_takenUp (e : QueueEntry) (now : Instant) :
    (e.takenUp now).mode = if e.isAutoExhausted then .manual else e.mode := by
  unfold takenUp
  split
  · rfl
  · exact e.mode_clearElapsed now

/-- How a claim leaves an entry that it takes. -/
structure Taken (e : QueueEntry) (force : Bool) (now : Instant) (taken : QueueEntry) : Prop where
  idle : e.status ≠ .running
  standing : taken.standing = { e.standing with status := .running }
  attempts : taken.attempts = min (e.attempts + 1) Word.max32
  maxAttempts : taken.maxAttempts = e.maxAttempts
  cooldown : taken.cooldownUntil = none
  attempted : taken.lastAttemptAt = some now
  /-- Only an entry with automatic attempts left stays in automatic mode. -/
  auto : taken.mode = .auto → e.mode = .auto ∧ e.attempts < e.maxAttempts
  eligible : force = false → e.isEligible now = true

end QueueEntry

namespace Queue

/-- The scheduler retries the entries in automatic mode that are eligible. -/
theorem mem_eligibleAuto {q : Queue} {now : Instant} {id : EntryId} :
    id ∈ q.eligibleAuto now ↔
      ∃ e ∈ q.entries, e.id = id ∧ e.mode = .auto ∧ e.isEligible now = true := by
  simp only [eligibleAuto, oldestFirst, List.mem_map, List.mem_mergeSort, List.mem_filter,
    Bool.and_eq_true, decide_eq_true_eq]
  constructor
  · rintro ⟨e, ⟨member, ready⟩, same⟩
    exact ⟨e, member, same, ready⟩
  · rintro ⟨e, member, same, ready⟩
    exact ⟨e, ⟨member, ready⟩, same⟩

theorem nodup_eligibleAuto {q : Queue} (unique : (q.entries.map (·.id)).Nodup) (now : Instant) :
    (q.eligibleAuto now).Nodup := by
  have sorted := List.mergeSort_perm (q.entries.filter fun s => s.mode = .auto && s.isEligible now)
    fun a b => decide (a.lastTouched ≤ b.lastTouched)
  exact ((sorted.map (·.id)).nodup_iff).mpr (unique.sublist (List.filter_sublist.map _))

/-- Entries that stand in the order in which they were last touched are retried in this order. -/
theorem eligibleAuto_of_sorted {q : Queue} {now : Instant}
    (sorted : (q.entries.filter fun s => s.mode = .auto && s.isEligible now).Pairwise
      fun a b => decide (a.lastTouched ≤ b.lastTouched) = true) :
    q.eligibleAuto now = (q.entries.filter fun s => s.mode = .auto && s.isEligible now).map (·.id) :=
  congrArg (List.map QueueEntry.id) (List.mergeSort_of_pairwise sorted)

variable {q after : Queue} {id : EntryId} {e : QueueEntry} {actor : String} {note : Option String}
  {force : Bool} {now : Instant} {c : Claim}

/-- The claim of an entry, if it succeeds. -/
def claimOf (e : QueueEntry) (actor : String) (note : Option String) (now : Instant) : Claim :=
  let entry := claimed (e.takenUp now) note now
  { entry
    mutations :=
      (if e.isAutoExhausted then [⟨.modeChanged, e.takenUp now, some actor, now⟩] else []) ++
        [⟨.claimed, entry, some actor, now⟩]
    previous := e.clearElapsed now }

/-- What becomes of a claim is decided by the entry as it stands, with its cooldown: an entry that is
eligible has attempts left, and the claim takes it in its mode. -/
theorem claim_of_idle (found : q.find? id = some e) (idle : e.status ≠ .running) :
    q.claim id actor note force now =
      if e.isEligible now || force then
        (q.replace (claimOf e actor note now).entry, .ok (claimOf e actor note now))
      else
        (q.replace (e.clearElapsed now), .error (.notEligible id (reasonAgainst (e.clearElapsed now) now))) := by
  have eligible : (e.clearElapsed now).isEligible now = e.isEligible now :=
    QueueEntry.isEligible_clearElapsed (Instant.le_refl now)
  simp only [claim, found, if_neg idle, eligible, QueueEntry.isAutoExhausted_clearElapsed]
  cases ready : e.isEligible now with
  | true =>
    have spared := QueueEntry.isAutoExhausted_of_isEligible ready
    simp [claimOf, QueueEntry.takenUp, spared]
  | false =>
    cases exhausted : e.isAutoExhausted <;> simp [claimOf, QueueEntry.takenUp, exhausted]

theorem reasonAgainst_of_exhausted (exhausted : e.isAutoExhausted = true) (now : Instant) :
    reasonAgainst (e.clearElapsed now) now = .exhausted := by
  unfold reasonAgainst
  split
  · rw [e.isAutoExhausted_clearElapsed now, exhausted, if_pos rfl]
  · rfl

theorem reasonAgainst_of_coolsDown {ending : Instant} (cools : e.CoolsDown ending now) :
    reasonAgainst (e.clearElapsed now) now = .coolingDown (waitSeconds ending now) := by
  simp only [reasonAgainst, cools.clearElapsed_eq, cools.cooldown, cools.not_isAutoExhausted,
    Bool.false_eq_true, if_false]

/-- A claim that is refused for a time found an entry that cools down, and gives the time until the end
of the cooldown. -/
theorem claim_waits {entry : EntryId} {wait : Nat}
    (failure : q.claim id actor note force now = (after, .error (.notEligible entry (.coolingDown wait)))) :
    ∃ e ending, q.find? id = some e ∧ e.CoolsDown ending now ∧ wait = waitSeconds ending now := by
  cases found : q.find? id with
  | none => simp [claim, found] at failure
  | some e =>
    by_cases running : e.status = .running
    · simp [claim_of_running found running] at failure
    · rw [claim_of_idle found running] at failure
      split at failure
      · cases failure
      · next refused =>
        simp only [Prod.mk.injEq, Except.error.injEq, Refusal.notEligible.injEq] at failure
        obtain ⟨_, _, reason⟩ := failure
        rcases e.cases_of_idle running now with ready | exhausted | ⟨ending, cools⟩
        · simp [ready] at refused
        · simp [reasonAgainst_of_exhausted exhausted] at reason
        · rw [reasonAgainst_of_coolsDown cools] at reason
          exact ⟨e, ending, rfl, cools, (Ineligibility.coolingDown.inj reason).symm⟩

/-- A claim that succeeds found an entry that was not running, and eligible unless the claim was forced. -/
theorem claim_succeeds (success : q.claim id actor note force now = (after, .ok c)) :
    ∃ e, q.find? id = some e ∧ e.status ≠ .running ∧ (force = false → e.isEligible now = true) ∧
      after = q.replace c.entry ∧ c = claimOf e actor note now := by
  obtain ⟨e, found, idle, _⟩ := claim_ok success
  rw [claim_of_idle found idle] at success
  split at success
  · next allowed =>
    cases success
    refine ⟨e, found, idle, fun unforced => ?_, rfl, rfl⟩
    simpa [unforced] using allowed
  · cases success

/-- A claim that succeeds puts the entry that it took in the place of the one that it found. -/
theorem claim_takes (success : q.claim id actor note force now = (after, .ok c)) :
    ∃ e, q.find? id = some e ∧ after = q.replace c.entry ∧ c.previous = e.clearElapsed now ∧
      e.Taken force now c.entry := by
  obtain ⟨e, found, idle, eligible, replaced, rfl⟩ := claim_succeeds success
  refine ⟨e, found, replaced, rfl, ?_⟩
  constructor
  case idle => exact idle
  case standing => exact congrArg (fun s : Standing => { s with status := .running }) (e.standing_takenUp now)
  case attempts => exact congrArg (fun n => min (n + 1) Word.max32) (e.attempts_takenUp now)
  case maxAttempts => exact e.maxAttempts_takenUp now
  case cooldown => rfl
  case attempted => rfl
  case auto =>
    intro auto
    have mode := (e.mode_takenUp now).symm.trans auto
    cases exhausted : e.isAutoExhausted with
    | true => simp [exhausted] at mode
    | false =>
      have auto_before : e.mode = .auto := by simpa [exhausted] using mode
      refine ⟨auto_before, ?_⟩
      simpa [QueueEntry.isAutoExhausted, auto_before] using exhausted
  case eligible => exact eligible

/-- A claim tells of a switch to manual mode first, if it makes one, and last of the entry that it
took. -/
theorem claim_tells (success : q.claim id actor note force now = (after, .ok c)) :
    ∃ first, c.mutations = first ++ [⟨.claimed, c.entry, some actor, now⟩] ∧
      ∀ m ∈ first, m.kind = .modeChanged ∧ m.entry.id = id := by
  obtain ⟨e, found, _, _, _, rfl⟩ := claim_succeeds success
  refine ⟨_, rfl, fun m member => ?_⟩
  split at member
  · obtain rfl := List.mem_singleton.mp member
    exact ⟨rfl, (congrArg Standing.id (e.standing_takenUp now)).trans (mem_of_find? found).2⟩
  · cases member

end Queue

end Reindexing
