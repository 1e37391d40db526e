import Reindexing.Proofs.Cooldown
import Reindexing.Proofs.Queue.Calls

/-!
# Bounds on attempts and cooldowns

An entry in automatic mode never has more attempts than its budget, and an entry
cools down only while it waits for an automatic retry that it may still get. The
cooldown is then counted from the last attempt, and is never longer than the
longest wait of the policy. Neither needs the calls to come in any order, nor
their times to increase, and a claim may be released more than once: whatever a
call writes into an entry is in bounds if the entry and the claims are.
-/
namespace Reindexing

namespace QueueEntry

/-- The entry keeps to its budget in automatic mode, and cools down only while it waits for an
automatic retry. -/
structure Regular (budget : Nat) (e : QueueEntry) : Prop where
  budget : e.maxAttempts = budget
  attempts : e.mode = .auto → e.attempts ≤ e.maxAttempts
  cooling : ∀ ending, e.cooldownUntil = some ending →
    e.status ≠ .running ∧ e.mode = .auto ∧ e.attempts < e.maxAttempts

/-- A cooldown of the entry lies within the longest wait from its last attempt on. -/
def Paced (policy : CooldownPolicy) (e : QueueEntry) : Prop :=
  ∃ last, e.lastAttemptAt = some last ∧ last.Representable ∧
    ∀ ending, e.cooldownUntil = some ending → last ≤ ending ∧ ending ≤ policy.ceiling last

variable {e : QueueEntry} {q : Queue} {budget draw : Nat} {policy : CooldownPolicy}
  {now start ending : Instant}

theorem cooldownAfter_eq_some (starts : q.cooldownAfter e start draw = some ending) :
    (e.mode = .auto ∧ e.attempts < e.maxAttempts) ∧
      q.policy.keptUntil e.attempts draw start = ending := by
  unfold Queue.cooldownAfter at starts
  split at starts
  · next waits => exact ⟨waits, Option.some.inj starts⟩
  · cases starts

theorem cooldownAfter_paced (readable : start.Representable)
    (starts : q.cooldownAfter e start draw = some ending) :
    start ≤ ending ∧ ending ≤ q.policy.ceiling start := by
  obtain ⟨_, rfl⟩ := cooldownAfter_eq_some starts
  exact ⟨CooldownPolicy.le_keptUntil readable _ _, CooldownPolicy.keptUntil_le_ceiling readable _ _⟩

/-- A mode switch starts the cooldown over from the last attempt, and only if it has not ended yet. -/
theorem cooldown_of_withMode {mode : RetryMode}
    (cools : (q.withMode e mode now draw).cooldownUntil = some ending) :
    e.status ≠ .running ∧
      q.cooldownAfter (q.withMode e mode now draw) (e.lastAttemptAt.getD now) draw = some ending := by
  by_cases running : e.status = .running
  · cases (if_pos running).symm.trans cools
  · exact ⟨running, Option.eq_some_of_filter_eq_some ((if_neg running).symm.trans cools)⟩

/-! ### Eligibility -/

/-- An entry in automatic mode whose attempts are used up is never eligible. -/
theorem not_eligible_of_exhausted (auto : e.mode = .auto) (used : e.attempts = e.maxAttempts)
    (time : Instant) : e.isEligible time = false :=
  not_isEligible_of_exhausted (isAutoExhausted_iff.mpr ⟨auto, Nat.le_of_eq used.symm⟩)

/-- An entry that waits for an automatic retry is eligible when the longest wait is over. -/
theorem Paced.eligible (paced : e.Paced policy) (auto : e.mode = .auto) (idle : e.status ≠ .running)
    (left : e.attempts < e.maxAttempts) :
    ∃ last, e.lastAttemptAt = some last ∧ ∀ time, policy.ceiling last ≤ time → e.isEligible time = true := by
  obtain ⟨last, attempted, _, within⟩ := paced
  refine ⟨last, attempted, fun time waited => (isEligible_auto auto).mpr ⟨idle, left, ?_⟩⟩
  intro ending cools
  exact Instant.le_trans (within ending cools).2 waited

/-! ### Entries that calls write -/

namespace Regular

theorem newEntry (q : Queue) (fresh : EntryId) (failed : Task) (mode : RetryMode) (now : Instant)
    (draw : Nat) : (q.newEntry fresh failed mode now draw).Regular q.maxAttempts where
  budget := rfl
  attempts _ := Nat.zero_le _
  cooling _ cools := ⟨nofun, (cooldownAfter_eq_some cools).1⟩

theorem repeatedFailure (before : e.Regular budget) (q : Queue) (failed : Task) (now : Instant)
    (draw : Nat) : (q.repeatedFailure e failed now draw).Regular budget where
  budget := before.budget
  attempts := before.attempts
  cooling ending cools := by
    by_cases running : e.status = .running
    · -- A running entry keeps its cooldown, of which it has none.
      have kept : e.cooldownUntil = some ending := (if_pos running).symm.trans cools
      exact absurd running (before.cooling ending kept).1
    · have starts : q.cooldownAfter (q.repeatedFailure e failed now draw) now draw = some ending :=
        (if_neg running).symm.trans cools
      exact ⟨running, (cooldownAfter_eq_some starts).1⟩

theorem retryFailed (before : e.Regular budget) (q : Queue) (failed : Task) (now : Instant)
    (draw : Nat) : (q.retryFailed e failed now draw).Regular budget where
  budget := before.budget
  attempts := before.attempts
  cooling _ cools := ⟨nofun, (cooldownAfter_eq_some cools).1⟩

theorem withMode (before : e.Regular budget) (q : Queue) (mode : RetryMode) (now : Instant)
    (draw : Nat) : (q.withMode e mode now draw).Regular budget where
  budget := before.budget
  attempts auto := by
    have chosen : mode = .auto := auto
    subst chosen
    exact Nat.min_le_right _ _
  cooling ending cools := by
    obtain ⟨idle, starts⟩ := cooldown_of_withMode cools
    exact ⟨idle, (cooldownAfter_eq_some starts).1⟩

theorem clearElapsed (before : e.Regular budget) (now : Instant) : (e.clearElapsed now).Regular budget :=
  e.clearElapsed_has now before ⟨before.budget, before.attempts, nofun⟩

theorem touch (before : e.Regular budget) (now : Instant) : (e.touch now).Regular budget :=
  ⟨before.budget, before.attempts, before.cooling⟩

theorem attach (before : e.Regular budget) (task : TaskId) :
    QueueEntry.Regular budget { e with currentTask := some task } :=
  ⟨before.budget, before.attempts, before.cooling⟩

theorem claimed {force : Bool} {taken : QueueEntry} (before : e.Regular budget)
    (takes : e.Taken force now taken) : taken.Regular budget where
  budget := takes.maxAttempts.trans before.budget
  attempts auto := by
    have left := (takes.auto auto).2
    have counted := takes.attempts
    have same := takes.maxAttempts
    omega
  cooling ending cools := by
    rw [takes.cooldown] at cools
    cases cools

/-- An ended cooldown of a regular entry that is not eligible is none: the entry cools down only while
nothing else keeps it from being retried. -/
theorem clearElapsed_of_refused (regular : e.Regular budget)
    (refused : (e.clearElapsed now).isEligible now = false) : e.clearElapsed now = e := by
  rcases e.clearElapsed_eq now with same | ⟨ending, cools, past, _⟩
  · exact same
  · obtain ⟨idle, auto, left⟩ := regular.cooling ending cools
    have ready : e.isEligible now = true := by
      refine (isEligible_auto auto).mpr ⟨idle, left, fun other same => ?_⟩
      rw [cools] at same
      exact Option.some.inj same ▸ past
    rw [isEligible_clearElapsed (Instant.le_refl now), ready] at refused
    cases refused

end Regular

namespace Paced

theorem newEntry (readable : now.Representable) (q : Queue) (fresh : EntryId) (failed : Task)
    (mode : RetryMode) (draw : Nat) : (q.newEntry fresh failed mode now draw).Paced q.policy :=
  ⟨now, rfl, readable, fun _ cools => cooldownAfter_paced readable cools⟩

theorem repeatedFailure (regular : e.Regular budget) (readable : now.Representable) (q : Queue)
    (failed : Task) (draw : Nat) : (q.repeatedFailure e failed now draw).Paced q.policy := by
  refine ⟨now, rfl, readable, fun ending cools => ?_⟩
  have idle := ((regular.repeatedFailure q failed now draw).cooling ending cools).1
  exact cooldownAfter_paced readable ((if_neg idle).symm.trans cools)

theorem retryFailed (readable : now.Representable) (q : Queue) (e : QueueEntry) (failed : Task)
    (draw : Nat) : (q.retryFailed e failed now draw).Paced q.policy :=
  ⟨now, rfl, readable, fun _ cools => cooldownAfter_paced readable cools⟩

theorem withMode (before : e.Paced q.policy) (mode : RetryMode) (now : Instant) (draw : Nat) :
    (q.withMode e mode now draw).Paced q.policy := by
  obtain ⟨last, attempted, readable, _⟩ := before
  refine ⟨last, attempted, readable, fun ending cools => ?_⟩
  obtain ⟨_, starts⟩ := cooldown_of_withMode cools
  rw [attempted] at starts
  exact cooldownAfter_paced readable starts

theorem clearElapsed (before : e.Paced policy) (now : Instant) : (e.clearElapsed now).Paced policy := by
  have ⟨last, attempted, readable, _⟩ := before
  exact e.clearElapsed_has now before ⟨last, attempted, readable, nofun⟩

theorem claimed {force : Bool} {taken : QueueEntry} (readable : now.Representable)
    (takes : e.Taken force now taken) : taken.Paced policy := by
  refine ⟨now, takes.attempted, readable, fun ending cools => ?_⟩
  rw [takes.cooldown] at cools
  cases cools

end Paced

end QueueEntry

namespace Queue

variable {q after : Queue} {id : EntryId} {actor : String} {note : Option String} {force : Bool}
  {now : Instant} {r : Refusal} {budget : Nat}

/-- A refused claim of a regular entry changes nothing. -/
theorem claim_refused (unique : (q.entries.map (·.id)).Nodup) (regular : ∀ e ∈ q.entries, e.Regular budget)
    (failure : q.claim id actor note force now = (after, .error r)) : after = q := by
  rcases claim_error failure with rfl | ⟨e, found, ineligible, rfl⟩
  · rfl
  · have member := (mem_of_find? found).1
    rw [(regular e member).clearElapsed_of_refused ineligible]
    exact replace_self unique member

end Queue

namespace Ledger

variable {l : Ledger} {c : Queue.Call} {told : List Mutation} {after : Books} {calls : List Queue.Call}
  {claims : List Claim} {policy : CooldownPolicy} {budget : Nat}

/-! ### Steps -/

theorem Step.queue_fixed (step : l.Step c told after) :
    after.queue.policy = l.queue.policy ∧ after.queue.maxAttempts = l.queue.maxAttempts := by
  cases step <;> exact ⟨rfl, rfl⟩

/-- What holds of every entry after a step, if it holds of what the step writes. -/
theorem Step.forall_entries {P : QueueEntry → Prop} (step : l.Step c told after)
    (before : ∀ e ∈ l.queue.entries, P e)
    (revised : ∀ e ∈ l.queue.entries, ∀ next told, l.Revises e c next told → P next)
    (cleared : ∀ e ∈ l.queue.entries, ∀ now, c.time? = some now → P (e.clearElapsed now))
    (created : ∀ failed mode now fresh draw, c = .enqueue failed mode now fresh draw →
      P (l.queue.newEntry fresh failed mode now draw)) : ∀ e ∈ after.queue.entries, P e := by
  intro s member
  cases step with
  | idle => exact before s member
  | revised _ known revises =>
    rcases Keyed.mem_replaceBy.mp member with ⟨rfl, _⟩ | ⟨old, _⟩
    · exact revised _ known _ _ revises
    · exact before s old
  | cleared now =>
    obtain ⟨e, known, rfl⟩ := List.mem_map.mp member
    exact cleared e known now rfl
  | created =>
    rcases List.mem_append.mp member with old | new
    · exact before s old
    · obtain rfl := List.mem_singleton.mp new
      exact created _ _ _ _ _ rfl
  | dropped => exact before s (List.mem_filter.mp member).1

theorem Revises.regular {e next : QueueEntry} (revises : l.Revises e c next told) (before : e.Regular budget)
    (listed : c.ReleasesFrom claims)
    (held : ∀ taken ∈ claims, taken.previous.Regular budget) : next.Regular budget := by
  cases revises with
  | failed => exact before.repeatedFailure ..
  | retryFailed => exact before.retryFailed ..
  | modeSet => exact before.withMode ..
  | claimed takes => exact before.claimed takes
  | refused => exact before.clearElapsed _
  | attached => exact before.attach _
  | released => exact (held _ listed).touch _

theorem Revises.paced {e next : QueueEntry} (revises : l.Revises e c next told) (regular : e.Regular budget)
    (before : e.Paced l.queue.policy) (readable : ∀ now, c.time? = some now → now.Representable)
    (listed : c.ReleasesFrom claims)
    (held : ∀ taken ∈ claims, taken.previous.Paced l.queue.policy) :
    next.Paced l.queue.policy := by
  cases revises with
  | failed => exact .repeatedFailure regular (readable _ rfl) ..
  | retryFailed => exact .retryFailed (readable _ rfl) ..
  | modeSet => exact before.withMode ..
  | claimed takes => exact .claimed (readable _ rfl) takes
  | refused => exact before.clearElapsed _
  | attached => exact before
  | released => exact held _ listed

/-! ### Runs -/

/-- The ledgers that calls lead to, with all claims that were ever taken. A claim may be released
whether it is still out or not. -/
inductive Wanders (start : Ledger) : List Queue.Call → List Claim → Ledger → Prop where
  | refl : Wanders start [] [] start
  | call {calls : List Queue.Call} {claims : List Claim} {l : Ledger} (c : Queue.Call) :
      Wanders start calls claims l → c.ReleasesFrom claims →
      Wanders start (calls ++ [c]) ((l.perform c).claims ++ claims) (l.perform c)

/-- The queue keeps its policy and its budget, and what holds of its entries holds of the entries that
claims remember. -/
structure Bounded (policy : CooldownPolicy) (budget : Nat) (P : QueueEntry → Prop) (claims : List Claim)
    (l : Ledger) : Prop where
  policy : l.queue.policy = policy
  budget : l.queue.maxAttempts = budget
  entries : ∀ e ∈ l.queue.entries, P e
  claims : ∀ taken ∈ l.claims ++ claims, P taken.previous

/-- What holds of the entries and of what claims remember of them stays so after a call, if it holds of
what the call writes. -/
theorem Bounded.perform {P : QueueEntry → Prop} (before : Bounded policy budget P claims l)
    (revised : ∀ e, P e → ∀ next told, l.Revises e c next told → e ∈ l.queue.entries → P next)
    (cleared : ∀ e, P e → ∀ now, c.time? = some now → P (e.clearElapsed now))
    (created : ∀ failed mode now fresh draw, c = .enqueue failed mode now fresh draw →
      P (l.queue.newEntry fresh failed mode now draw)) :
    Bounded policy budget P ((l.perform c).claims ++ claims) (l.perform c) where
  policy := (l.step c).queue_fixed.1.trans before.policy
  budget := (l.step c).queue_fixed.2.trans before.budget
  entries := by
    refine (l.step c).forall_entries before.entries ?_ ?_ created
    · intro e known next told revises
      exact revised e (before.entries e known) next told revises known
    · exact fun e known => cleared e (before.entries e known)
  claims := by
    have out : ∀ taken ∈ (l.perform c).claims, P taken.previous := by
      intro taken member
      rcases claims_origin member with old | ⟨e, known, _, _, _, _, now, rfl, previous⟩
      · exact before.claims taken (List.mem_append_left _ old)
      · exact previous ▸ cleared e (before.entries e known) now rfl
    intro taken member
    rcases List.mem_append.mp member with new | member
    · exact out taken new
    · rcases List.mem_append.mp member with new | old
      · exact out taken new
      · exact before.claims taken (List.mem_append_right _ old)

theorem bounded_start (policy : CooldownPolicy) (maxAttempts : Nat) (P : QueueEntry → Prop) :
    Bounded policy (max maxAttempts 1) P [] (start policy maxAttempts) where
  policy := rfl
  budget := rfl
  entries := List.forall_mem_nil _
  claims := List.forall_mem_nil _

variable {maxAttempts : Nat}

theorem Wanders.regular (run : Wanders (start policy maxAttempts) calls claims l) :
    Bounded policy (max maxAttempts 1) (QueueEntry.Regular (max maxAttempts 1)) claims l := by
  induction run with
  | refl => exact bounded_start policy maxAttempts _
  | @call calls claims l c leads listed ih =>
    refine ih.perform ?_ (fun e regular now _ => regular.clearElapsed now) ?_
    · intro e regular next told revises _
      exact revises.regular regular listed fun taken member => ih.claims taken (List.mem_append_right _ member)
    · intro failed mode now fresh draw _
      exact ih.budget ▸ .newEntry ..

theorem Wanders.paced (run : Wanders (start policy maxAttempts) calls claims l)
    (readable : ∀ c ∈ calls, ∀ now, c.time? = some now → now.Representable) :
    Bounded policy (max maxAttempts 1) (QueueEntry.Paced policy) claims l := by
  induction run with
  | refl => exact bounded_start policy maxAttempts _
  | @call calls claims l c leads listed ih =>
    have ih := ih fun d member => readable d (List.mem_append_left _ member)
    have now_readable := readable c (List.mem_append_right _ (List.mem_singleton_self c))
    have regular := leads.regular
    obtain rfl := ih.policy
    refine ih.perform ?_ (fun e paced now _ => paced.clearElapsed now) ?_
    · intro e paced next told revises known
      exact revises.paced (regular.entries e known) paced now_readable listed fun taken member =>
        ih.claims taken (List.mem_append_right _ member)
    · intro failed mode now fresh draw same
      exact .newEntry (now_readable now (by rw [same]; rfl)) ..

/-- Calls that release only claims that are out release claims that were taken. -/
theorem Leads.wanders (run : Leads (start policy maxAttempts) calls l) :
    ∃ claims, Wanders (start policy maxAttempts) calls claims l ∧ l.claims ⊆ claims := by
  induction run with
  | refl => exact ⟨[], .refl, List.Subset.refl _⟩
  | call c leads admits ih =>
    obtain ⟨claims, wanders, out⟩ := ih
    have listed : c.ReleasesFrom claims := by
      cases c with
      | release => exact out admits
      | _ => trivial
    exact ⟨_, wanders.call c listed, List.subset_append_left _ _⟩

/-- In every state of the queue, every entry has the budget of the queue, which is positive. In
automatic mode its attempts stay within the budget, and once they reach it the entry is never eligible.
It cools down only while it waits for an automatic retry, from its last attempt on and no longer than
the longest wait of the policy, after which it is eligible at any time. -/
theorem attempts_and_cooldowns_stay_in_bounds
    (run : Wanders (start policy maxAttempts) calls claims l)
    (readable : ∀ c ∈ calls, ∀ now, c.time? = some now → now.Representable) :
    l.queue.policy = policy ∧ l.queue.maxAttempts = max maxAttempts 1 ∧
    ∀ e ∈ l.queue.entries,
      (e.maxAttempts = l.queue.maxAttempts ∧ 1 ≤ e.maxAttempts) ∧
      (e.mode = .auto → e.attempts ≤ e.maxAttempts ∧
        (e.attempts = e.maxAttempts → ∀ time, e.isEligible time = false)) ∧
      (∀ ending, e.cooldownUntil = some ending →
        e.status ≠ .running ∧ e.mode = .auto ∧ e.attempts < e.maxAttempts ∧
        ∃ last, e.lastAttemptAt = some last ∧ last ≤ ending ∧ ending ≤ policy.ceiling last) ∧
      (e.mode = .auto → e.status ≠ .running → e.attempts < e.maxAttempts →
        ∃ last, e.lastAttemptAt = some last ∧
          ∀ time, policy.ceiling last ≤ time → e.isEligible time = true) := by
  have bounded := run.regular
  refine ⟨bounded.policy, bounded.budget, fun e member => ?_⟩
  have regular := bounded.entries e member
  have paced := (run.paced readable).entries e member
  refine ⟨⟨regular.budget.trans bounded.budget.symm, ?_⟩, ?_, ?_, paced.eligible⟩
  · rw [regular.budget]
    exact Nat.le_max_right _ _
  · exact fun auto => ⟨regular.attempts auto, QueueEntry.not_eligible_of_exhausted auto⟩
  · intro ending cools
    obtain ⟨idle, auto, left⟩ := regular.cooling ending cools
    obtain ⟨last, attempted, _, within⟩ := paced
    exact ⟨idle, auto, left, last, attempted, within ending cools⟩

/-- A claim is released twice. Then the entry is claimed again and handed over to the scheduler, and its
retry fails: it has used up the one attempt that the budget allows. -/
theorem exhausted_entry_after_a_claim_released_twice :
    ∃ (calls : List Queue.Call) (claims : List Claim) (l : Ledger),
      Wanders (start (.ofSpans .zero .zero) 0) calls claims l ∧
      (∀ c ∈ calls, ∀ now, c.time? = some now → now.Representable) ∧
      l.queue.policy = .ofSpans .zero .zero ∧ l.queue.maxAttempts = 1 ∧
      ∃ e ∈ l.queue.entries, e.mode = .auto ∧ e.attempts = 1 ∧ e.status = .failed ∧
        ∀ time, e.isEligible time = false := by
  let failed (n : Nat) : Task := { Task.create ⟨.ofNat n⟩ .all "ops" .epoch with status := .failed }
  let create : Queue.Call := .enqueue (failed 1) .manual .epoch ⟨.ofNat 1⟩ 0
  let claim : Queue.Call := .claim ⟨.ofNat 1⟩ "ops" none false .epoch
  let hand : Queue.Call := .setMode ⟨.ofNat 1⟩ .auto "ops" .epoch 0
  let fail : Queue.Call := .recordRetryFailure ⟨.ofNat 1⟩ (failed 2) .epoch 0
  let held := ((start (.ofSpans .zero .zero) 0).perform create).perform claim
  let taken : Claim := held.claims.head (by decide)
  let release : Queue.Call := .release taken .epoch
  let calls : List Queue.Call := [create, claim, release, release, claim, hand, fail]
  let last := ((((held.perform release).perform release).perform claim).perform hand).perform fail
  have out : ∀ more, taken ∈ held.claims ++ more := fun more => List.mem_append_left more (List.head_mem _)
  have run : Wanders (start (.ofSpans .zero .zero) 0) calls _ last :=
    ((((((Wanders.refl.call create trivial).call claim trivial).call release (out _)).call release
      (List.mem_append_right _ (out _))).call claim trivial).call hand trivial).call fail trivial
  have readable : ∀ c ∈ calls, ∀ now, c.time? = some now → now.Representable := by
    intro c member now same
    have named : c.time? ∈ List.replicate 7 (some Instant.epoch) :=
      List.mem_map_of_mem (f := Queue.Call.time?) member
    rw [List.eq_of_mem_replicate named] at same
    cases same
    decide
  obtain ⟨policy, budget, bounds⟩ := attempts_and_cooldowns_stay_in_bounds run readable
  obtain ⟨e, member, auto, attempts, status⟩ :
      ∃ e ∈ last.queue.entries, e.mode = .auto ∧ e.attempts = 1 ∧ e.status = .failed := by
    decide +kernel
  have used : e.attempts = e.maxAttempts := by
    rw [attempts, ((bounds e member).1).1, budget]
    rfl
  exact ⟨calls, _, last, run, readable, policy, budget, e, member, auto, attempts, status,
    ((bounds e member).2.1 auto).2 used⟩

end Ledger

end Reindexing
