import Reindexing.Proofs.Queue.Bounds

/-!
# Switching to manual mode and back

A switch to manual mode drops the cooldown of an entry, and the switch back counts
it again from the last attempt. Without jitter this makes no difference: what an
entry has in the meantime is the cooldown from its last attempt on, or none because
that one has ended and was dropped. Every call keeps it so, the two switches among
them, and which of the two it is does not matter from the time of the last call on.
-/
namespace Reindexing

namespace QueueEntry

/-- The entry cools down from its last attempt on, or it no longer does since the cooldown has ended. -/
def CountsFromLast (policy : CooldownPolicy) (since : Instant) (e : QueueEntry) : Prop :=
  ∃ last, e.lastAttemptAt = some last ∧
    (e.status ≠ .running → e.mode = .auto → e.attempts < e.maxAttempts →
      e.cooldownUntil = some (policy.plainCooldownUntil e.attempts last) ∨
        e.cooldownUntil = none ∧ policy.plainCooldownUntil e.attempts last ≤ since)

variable {q : Queue} {e : QueueEntry} {policy : CooldownPolicy} {last since now time : Instant} {draw : Nat}

theorem cooldownAfter_eq (plain : ¬ (0.0 : Float) < q.policy.jitter) (auto : e.mode = .auto)
    (left : e.attempts < e.maxAttempts) (draw : Nat) :
    q.cooldownAfter e last draw = some (q.policy.plainCooldownUntil e.attempts last) := by
  rw [Queue.cooldownAfter, if_pos ⟨auto, left⟩, CooldownPolicy.keptUntil_of_no_jitter plain]

namespace CountsFromLast

/-- Of a running retry nothing is asked. -/
theorem of_running (attempted : e.lastAttemptAt = some last) (running : e.status = .running) :
    e.CountsFromLast policy since :=
  ⟨last, attempted, fun idle => absurd running idle⟩

theorem of_cooldownAfter (plain : ¬ (0.0 : Float) < q.policy.jitter) (attempted : e.lastAttemptAt = some last)
    (cools : e.status ≠ .running → e.cooldownUntil = q.cooldownAfter e last draw) :
    e.CountsFromLast q.policy since := by
  refine ⟨last, attempted, fun idle auto left => .inl ?_⟩
  rw [cools idle, cooldownAfter_eq plain auto left]

theorem clearElapsed (before : e.CountsFromLast policy since) (le : now ≤ since) :
    (e.clearElapsed now).CountsFromLast policy since := by
  rcases e.clearElapsed_eq now with same | ⟨ending, cooldown, past, same⟩
  · rwa [same]
  · obtain ⟨last, attempted, counts⟩ := before
    rw [same]
    refine ⟨last, attempted, fun idle auto left => .inr ⟨rfl, ?_⟩⟩
    rcases counts idle auto left with cools | ⟨_, ended⟩
    · obtain rfl := Option.some.inj (cooldown.symm.trans cools)
      exact Instant.le_trans past le
    · exact ended

/-- A switch counts the cooldown from the last attempt as well, and leaves it out if it has ended. -/
theorem withMode (before : e.CountsFromLast q.policy since) (plain : ¬ (0.0 : Float) < q.policy.jitter)
    (le : now ≤ since) (mode : RetryMode) (draw : Nat) :
    (q.withMode e mode now draw).CountsFromLast q.policy since := by
  obtain ⟨last, attempted, _⟩ := before
  refine ⟨last, attempted, fun idle auto left => ?_⟩
  -- The end of the cooldown gets a name, since what remains is about whether it lies ahead.
  obtain ⟨ending, same⟩ : ∃ ending,
      ending = q.policy.plainCooldownUntil (q.withMode e mode now draw).attempts last := ⟨_, rfl⟩
  have starts : q.cooldownAfter (q.withMode e mode now draw) (e.lastAttemptAt.getD now) draw = some ending := by
    rw [attempted, same]
    exact cooldownAfter_eq plain auto left draw
  have cooldown : (q.withMode e mode now draw).cooldownUntil =
      (some ending).filter fun ending => decide (now < ending) := by
    rw [← starts]
    exact if_neg idle
  rw [cooldown, ← same]
  by_cases ahead : now < ending
  · exact .inl (Option.filter_eq_some_iff.mpr ⟨rfl, decide_eq_true ahead⟩)
  · exact .inr ⟨Option.filter_eq_none_iff.mpr (by simpa using ahead),
      Instant.le_trans (Instant.not_lt.mp ahead) le⟩

/-- When the entry is eligible follows from its attempts and its last attempt. -/
theorem isEligible_iff (counts : e.CountsFromLast policy since) (attempted : e.lastAttemptAt = some last)
    (idle : e.status ≠ .running) (auto : e.mode = .auto) (le : since ≤ time) :
    e.isEligible time = true ↔
      e.attempts < e.maxAttempts ∧ policy.plainCooldownUntil e.attempts last ≤ time := by
  obtain ⟨other, same, counts⟩ := counts
  obtain rfl := Option.some.inj (attempted.symm.trans same)
  rw [isEligible_auto auto]
  constructor
  · rintro ⟨_, left, ended⟩
    refine ⟨left, ?_⟩
    rcases counts idle auto left with cools | ⟨_, past⟩
    · exact ended _ cools
    · exact Instant.le_trans past le
  · rintro ⟨left, past⟩
    refine ⟨idle, left, fun ending cooldown => ?_⟩
    rcases counts idle auto left with cools | ⟨none, _⟩
    · obtain rfl := Option.some.inj (cooldown.symm.trans cools)
      exact past
    · cases cooldown.symm.trans none

end CountsFromLast

theorem retryState_congr {other : QueueEntry} (status : other.status = e.status) (mode : other.mode = e.mode)
    (exhausted : other.isAutoExhausted = e.isAutoExhausted)
    (eligible : other.isEligible time = e.isEligible time) : other.retryState time = e.retryState time := by
  unfold retryState
  refine if_congr (by rw [status]) rfl (if_congr (by rw [mode]) rfl ?_)
  rw [exhausted, eligible]

theorem retryState_of_exhausted (idle : e.status ≠ .running) (exhausted : e.isAutoExhausted = true) :
    e.retryState time = .autoExhausted := by
  have auto := (isAutoExhausted_iff.mp exhausted).1
  simp [retryState, idle, auto, exhausted]

/-- The entry after a switch to manual mode and one back to automatic mode. -/
def switched (q : Queue) (e : QueueEntry) (first second : Instant) (drawn redrawn : Nat) : QueueEntry :=
  q.withMode (q.withMode e .manual first drawn) .auto second redrawn

section
variable {first second : Instant} {drawn redrawn : Nat}

theorem attempts_switched (within : e.attempts ≤ e.maxAttempts) :
    (e.switched q first second drawn redrawn).attempts = e.attempts :=
  Nat.min_eq_left within

theorem attemptsRemaining_switched (auto : e.mode = .auto) (within : e.attempts ≤ e.maxAttempts) :
    (e.switched q first second drawn redrawn).attemptsRemaining = e.attemptsRemaining := by
  rw [attemptsRemaining, attemptsRemaining, attempts_switched within, auto]
  rfl

theorem isAutoExhausted_switched (auto : e.mode = .auto) (within : e.attempts ≤ e.maxAttempts) :
    (e.switched q first second drawn redrawn).isAutoExhausted = e.isAutoExhausted := by
  rw [isAutoExhausted, isAutoExhausted, attempts_switched within, auto]
  rfl

/-- Before and after both switches, the cooldown is counted from the same attempt. -/
theorem isEligible_switched (counts : e.CountsFromLast q.policy second)
    (plain : ¬ (0.0 : Float) < q.policy.jitter) (idle : e.status ≠ .running) (auto : e.mode = .auto)
    (within : e.attempts ≤ e.maxAttempts) (le : first ≤ second) (since : second ≤ time) :
    (e.switched q first second drawn redrawn).isEligible time = e.isEligible time := by
  have ⟨last, attempted, _⟩ := counts
  have switched : (e.switched q first second drawn redrawn).CountsFromLast q.policy second :=
    (counts.withMode plain le .manual drawn).withMode plain (Instant.le_refl second) .auto redrawn
  rw [Bool.eq_iff_iff, counts.isEligible_iff attempted idle auto since,
    switched.isEligible_iff attempted idle rfl since, attempts_switched within]
  exact Iff.rfl

end

/-- An entry that comes back with more attempts than its budget allows has just used it up. -/
theorem exhausted_of_excess (excess : e.maxAttempts < e.attempts) (q : Queue) (now : Instant) (draw : Nat) :
    (q.withMode e .auto now draw).attempts = e.maxAttempts ∧
      (q.withMode e .auto now draw).isAutoExhausted = true :=
  ⟨Nat.min_eq_right (Nat.le_of_lt excess),
    isAutoExhausted_iff.mpr ⟨rfl, Nat.le_min.mpr ⟨Nat.le_of_lt excess, Nat.le_refl _⟩⟩⟩

end QueueEntry

namespace Queue

/-- No call names a later time. -/
def DoneBy (calls : List Call) (time : Instant) : Prop :=
  ∀ c ∈ calls, ∀ now, c.time? = some now → now ≤ time

theorem setMode_there_and_back {q : Queue} {e : QueueEntry} (found : q.find? e.id = some e)
    (leaver returner : String) (first second : Instant) (drawn redrawn : Nat) :
    ∃ away left back returned, q.setMode e.id .manual leaver first drawn = .ok (away, left) ∧
      away.setMode e.id .auto returner second redrawn = .ok (back, returned) ∧
      back.find? e.id = some (e.switched q first second drawn redrawn) := by
  have stays (overflow : Bool) : ((q.noteOverflow overflow).replace (q.withMode e .manual first drawn)).find? e.id =
      some (q.withMode e .manual first drawn) := find?_replace found rfl
  exact ⟨_, _, _, _, setMode_of_find? found .., setMode_of_find? (stays _) .., find?_replace (stays _) rfl⟩

end Queue

namespace Ledger

variable {l : Ledger} {e next : QueueEntry} {c : Queue.Call} {calls : List Queue.Call}
  {told : List Mutation} {claims : List Claim} {policy : CooldownPolicy} {maxAttempts : Nat} {since : Instant}

theorem Revises.countsFromLast (revises : l.Revises e c next told)
    (plain : ¬ (0.0 : Float) < l.queue.policy.jitter) (before : e.CountsFromLast l.queue.policy since)
    (past : ∀ now, c.time? = some now → now ≤ since) (listed : c.ReleasesFrom claims)
    (held : ∀ taken ∈ claims, taken.previous.CountsFromLast l.queue.policy since) :
    next.CountsFromLast l.queue.policy since := by
  cases revises with
  | failed => exact .of_cooldownAfter plain rfl fun idle => if_neg idle
  | retryFailed => exact .of_cooldownAfter plain rfl fun _ => rfl
  | modeSet => exact before.withMode plain (past _ rfl) _ _
  | claimed takes => exact .of_running takes.attempted (congrArg Standing.status takes.standing)
  | refused => exact before.clearElapsed (past _ rfl)
  | attached => exact before
  | released => exact held _ listed

theorem Wanders.countsFromLast (run : Wanders (start policy maxAttempts) calls claims l)
    (plain : ¬ (0.0 : Float) < policy.jitter) (done : Queue.DoneBy calls since) :
    Bounded policy (max maxAttempts 1) (QueueEntry.CountsFromLast policy since) claims l := by
  induction run with
  | refl => exact bounded_start policy maxAttempts _
  | @call calls claims l c _ listed ih =>
    have ih := ih fun d member => done d (List.mem_append_left _ member)
    have past := done c (List.mem_append_right _ (List.mem_singleton_self c))
    obtain rfl := ih.policy
    refine ih.perform ?_ (fun e counts now named => counts.clearElapsed (past now named)) ?_
    · intro e counts next told revises _
      exact revises.countsFromLast plain counts past listed fun taken member =>
        ih.claims taken (List.mem_append_right _ member)
    · intro failed mode now fresh draw _
      exact .of_cooldownAfter plain rfl fun _ => rfl

/-- An entry that is switched to manual mode and back, after everything else that happened, keeps its
attempts and is eligible when it would have been without. An entry that comes back with more attempts
than its budget allows is exhausted. -/
theorem mode_switches_keep_cooldown_and_budget (run : Leads (start policy maxAttempts) calls l) :
    (¬ (0.0 : Float) < policy.jitter → ∀ first second, Queue.DoneBy calls first → first ≤ second →
      ∀ e ∈ l.queue.entries, e.mode = .auto → e.status ≠ .running →
      ∀ leaver returner drawn redrawn, ∃ away left back returned next,
        l.queue.setMode e.id .manual leaver first drawn = .ok (away, left) ∧
        away.setMode e.id .auto returner second redrawn = .ok (back, returned) ∧
        back.find? e.id = some next ∧ next.mode = .auto ∧ next.attempts = e.attempts ∧
        ∀ time, second ≤ time →
          next.isEligible time = e.isEligible time ∧ next.retryState time = e.retryState time ∧
          next.attemptsRemaining = e.attemptsRemaining) ∧
    ∀ e ∈ l.queue.entries, e.maxAttempts < e.attempts → ∀ actor now draw, ∃ back returned next,
      l.queue.setMode e.id .auto actor now draw = .ok (back, returned) ∧ back.find? e.id = some next ∧
      next.attempts = e.maxAttempts ∧ next.isAutoExhausted = true ∧
      ∀ time, next.isEligible time = false ∧ (e.status ≠ .running → next.retryState time = .autoExhausted) := by
  have sound := run.sound (sound_start policy maxAttempts)
  obtain ⟨claims, wanders, _⟩ := run.wanders
  constructor
  · intro plain first second done le e member auto idle leaver returner drawn redrawn
    -- Either switch drops a cooldown that is past, so both entries are compared from the second one on.
    have within := (wanders.regular.entries e member).attempts auto
    have done : Queue.DoneBy calls second := fun c known now named => Instant.le_trans (done c known now named) le
    have bounded := wanders.countsFromLast plain done
    obtain rfl := bounded.policy
    obtain ⟨away, left, back, returned, leaves, returns, stored⟩ :=
      Queue.setMode_there_and_back (sound.find?_of_mem member) leaver returner first second drawn redrawn
    refine ⟨away, left, back, returned, _, leaves, returns, stored, rfl, QueueEntry.attempts_switched within,
      fun time since => ?_⟩
    have eligible : (e.switched l.queue first second drawn redrawn).isEligible time = e.isEligible time :=
      QueueEntry.isEligible_switched (bounded.entries e member) plain idle auto within le since
    exact ⟨eligible,
      QueueEntry.retryState_congr rfl auto.symm (QueueEntry.isAutoExhausted_switched auto within) eligible,
      QueueEntry.attemptsRemaining_switched auto within⟩
  · intro e member excess actor now draw
    have found : l.queue.find? e.id = some e := sound.find?_of_mem member
    obtain ⟨attempts, exhausted⟩ := QueueEntry.exhausted_of_excess excess l.queue now draw
    refine ⟨_, _, l.queue.withMode e .auto now draw, Queue.setMode_of_find? found ..,
      Queue.find?_replace found rfl, attempts, exhausted, fun time => ?_⟩
    exact ⟨QueueEntry.not_isEligible_of_exhausted exhausted,
      fun idle => QueueEntry.retryState_of_exhausted idle exhausted⟩

/-- An entry leaves automatic mode ten seconds after its failure and is back after twenty: its cooldown of a
minute still ends a minute after the failure. Another one has a budget of one attempt, comes back after two
and is exhausted. -/
theorem mode_switches_within_a_cooldown :
    (∃ (calls : List Queue.Call) (l : Ledger),
      Leads (start (.ofSpans (.ofSeconds 60) (.ofSeconds 3600)) 3) calls l ∧
      ∃ e ∈ l.queue.entries, ∃ away left back returned next,
        l.queue.setMode e.id .manual "ops" ⟨10, 0⟩ 0 = .ok (away, left) ∧
        away.setMode e.id .auto "ops" ⟨20, 0⟩ 0 = .ok (back, returned) ∧
        back.find? e.id = some next ∧ next.attempts = 0 ∧ next.isEligible ⟨59, 999999999⟩ = false ∧
        next.isEligible ⟨60, 0⟩ = true) ∧
    ∃ (calls : List Queue.Call) (l : Ledger), Leads (start (.ofSpans .zero .zero) 1) calls l ∧
      ∃ e ∈ l.queue.entries, e.attempts = 2 ∧ ∃ back returned next,
        l.queue.setMode e.id .auto "ops" .epoch 0 = .ok (back, returned) ∧
        back.find? e.id = some next ∧ next.attempts = 1 ∧ next.isAutoExhausted = true := by
  let failed (n : Nat) : Task := { Task.create ⟨.ofNat n⟩ .all "ops" .epoch with status := .failed }
  let create : Queue.Call := .enqueue (failed 1) .auto .epoch ⟨.ofNat 1⟩ 0
  constructor
  · let l := (start (.ofSpans (.ofSeconds 60) (.ofSeconds 3600)) 3).perform create
    have run : Leads (start (.ofSpans (.ofSeconds 60) (.ofSeconds 3600)) 3) [create] l :=
      .call create .refl (by decide)
    have done : Queue.DoneBy [create] ⟨10, 0⟩ := by
      intro c member now named
      obtain rfl := List.mem_singleton.mp member
      cases named
      decide
    obtain ⟨e, member, auto, idle, unused, early, ready⟩ : ∃ e ∈ l.queue.entries, e.mode = .auto ∧
        e.status ≠ .running ∧ e.attempts = 0 ∧ e.isEligible ⟨59, 999999999⟩ = false ∧
        e.isEligible ⟨60, 0⟩ = true := by
      decide +kernel
    obtain ⟨away, left, back, returned, next, leaves, returns, found, _, attempts, same⟩ :=
      (mode_switches_keep_cooldown_and_budget run).1 (by decide) ⟨10, 0⟩ ⟨20, 0⟩ done (by decide) e member auto
        idle "ops" "ops" 0 0
    refine ⟨_, l, run, e, member, away, left, back, returned, next, leaves, returns, found,
      attempts.trans unused, ?_, ?_⟩
    · exact (same ⟨59, 999999999⟩ (by decide)).1.trans early
    · exact (same ⟨60, 0⟩ (by decide)).1.trans ready
  · let claim (force : Bool) : Queue.Call := .claim ⟨.ofNat 1⟩ "ops" none force .epoch
    let fail (n : Nat) : Queue.Call := .recordRetryFailure ⟨.ofNat 1⟩ (failed n) .epoch 0
    let l := ((((start (.ofSpans .zero .zero) 1).perform create).perform (claim false)).perform
      (fail 2)).perform (claim true)
    have run : Leads (start (.ofSpans .zero .zero) 1) [create, claim false, fail 2, claim true] l :=
      (((Leads.refl.call create (by decide)).call (claim false) trivial).call (fail 2) trivial).call
        (claim true) trivial
    obtain ⟨e, member, budget, attempts⟩ : ∃ e ∈ l.queue.entries, e.maxAttempts = 1 ∧ e.attempts = 2 := by
      decide +kernel
    have excess : e.maxAttempts < e.attempts := by omega
    obtain ⟨back, returned, next, returns, found, left, exhausted, _⟩ :=
      (mode_switches_keep_cooldown_and_budget run).2 e member excess "ops" .epoch 0
    exact ⟨_, l, run, e, member, attempts, back, returned, next, returns, found, left.trans budget, exhausted⟩

end Ledger

end Reindexing
