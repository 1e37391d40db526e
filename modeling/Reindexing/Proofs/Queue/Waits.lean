import Reindexing.Proofs.Queue.Forecasts

/-!
# How long a refused claim has to wait

A claim that is refused for a cooldown names the seconds until the cooldown ends,
rounded down to whole seconds but never to none. The claim succeeds from the end
of the cooldown on, which the rounding may miss: after the seconds that are named
it succeeds only if no more than one second was left, or if the seconds are exact.
One second more is always enough. Seconds are counted by clocks that show no leap
seconds, in which case no cooldown ends in one either.
-/
namespace Reindexing

namespace Queue

variable {q : Queue} {e : QueueEntry} {now ending later : Instant}

/-- While nothing else happens to an entry that cools down, a claim without force succeeds from the end
of the cooldown on. -/
theorem isOk_claim_of_coolsDown (found : q.find? e.id = some e) (cools : e.CoolsDown ending now)
    (actor : String) (note : Option String) (later : Instant) :
    (q.claim e.id actor note false later).2.isOk = true ↔ ending ≤ later := by
  rw [claim_of_idle found cools.idle, Bool.or_false, ← cools.isEligible_iff]
  split
  · next ready => simp [ready, Except.isOk, Except.toBool]
  · next refused => simp [refused, Except.isOk, Except.toBool]

/-! ### Seconds outside leap seconds -/

section
variable (ordinary_now : now.IsOrdinary) (ordinary_ending : ending.IsOrdinary)
include ordinary_now ordinary_ending

/-- So many nanoseconds after the refusal, the cooldown has ended. -/
theorem ended_iff {nanos : Nat} (passed : now.add? nanos = some later) :
    ending ≤ later ↔ (ending - now : Int) ≤ nanos := by
  obtain ⟨ordinary_later, since⟩ := Instant.add?_of_ordinary ordinary_now passed
  rw [Instant.le_iff_sinceEpoch ordinary_ending ordinary_later, since,
    Instant.sub_of_ordinary ordinary_now ordinary_ending]
  omega

variable (before : now < ending)
include before

theorem waitSeconds_eq :
    0 < (ending - now : Int) ∧
      (waitSeconds ending now : Int) = max ((ending - now : Int) / (Instant.nanosPerSecond : Int)) 1 := by
  have positive : 0 < (ending - now : Int) := by
    rw [Instant.sub_of_ordinary ordinary_now ordinary_ending]
    exact Int.sub_pos_of_lt ((Instant.lt_iff_sinceEpoch ordinary_now ordinary_ending).mp before)
  refine ⟨positive, ?_⟩
  -- The cooldown lies ahead, so rounding toward zero is rounding down.
  rw [waitSeconds, Instant.wholeSeconds, Int.tdiv_eq_ediv_of_nonneg (Int.le_of_lt positive)]
  exact Int.toNat_of_nonneg (Int.le_trans Int.one_nonneg (Int.le_max_right _ _))

/-- The seconds that are named are enough if no more than one was left, or if they are exact. -/
theorem wait_enough_iff
    (passed : now.add? (waitSeconds ending now * Instant.nanosPerSecond : Nat) = some later) :
    ending ≤ later ↔ (ending - now : Int) ≤ Instant.nanosPerSecond ∨
      (Instant.nanosPerSecond : Int) ∣ (ending - now : Int) := by
  obtain ⟨positive, seconds⟩ := waitSeconds_eq ordinary_now ordinary_ending before
  rw [ended_iff ordinary_now ordinary_ending passed]
  generalize (ending - now : Int) = left at *
  simp only [Instant.nanosPerSecond] at *
  omega

theorem wait_and_a_second_enough
    (passed : now.add? ((waitSeconds ending now + 1) * Instant.nanosPerSecond : Nat) = some later) :
    ending ≤ later := by
  obtain ⟨positive, seconds⟩ := waitSeconds_eq ordinary_now ordinary_ending before
  rw [ended_iff ordinary_now ordinary_ending passed]
  generalize (ending - now : Int) = left at *
  simp only [Instant.nanosPerSecond] at *
  omega

end

end Queue

namespace QueueEntry

/-- The last attempt and the end of the cooldown lie outside leap seconds. -/
structure IsOrdinary (e : QueueEntry) : Prop where
  attempted : ∀ last, e.lastAttemptAt = some last → last.IsOrdinary
  cooldown : ∀ ending, e.cooldownUntil = some ending → ending.IsOrdinary

variable {q : Queue} {e : QueueEntry} {start ending : Instant} {draw : Nat}

theorem cooldownAfter_ordinary (ordinary : start.IsOrdinary)
    (starts : q.cooldownAfter e start draw = some ending) : ending.IsOrdinary := by
  obtain ⟨_, rfl⟩ := cooldownAfter_eq_some starts
  obtain ⟨delay, kept, _⟩ := q.policy.keptUntil_eq_endOf e.attempts draw start
  rw [kept]
  exact CooldownPolicy.endOf_ordinary ordinary delay

theorem IsOrdinary.clearElapsed (before : e.IsOrdinary) (now : Instant) : (e.clearElapsed now).IsOrdinary :=
  e.clearElapsed_has now before ⟨before.attempted, nofun⟩

end QueueEntry

namespace Ledger

variable {l : Ledger} {e next : QueueEntry} {c : Queue.Call} {calls : List Queue.Call}
  {told : List Mutation} {claims : List Claim} {policy : CooldownPolicy} {maxAttempts : Nat}

theorem Revises.ordinary (revises : l.Revises e c next told) (before : e.IsOrdinary)
    (times : ∀ now, c.time? = some now → now.IsOrdinary) (listed : c.ReleasesFrom claims)
    (held : ∀ taken ∈ claims, taken.previous.IsOrdinary) : next.IsOrdinary := by
  cases revises with
  | @failed failed _ now _ draw =>
    have ordinary := times now rfl
    refine ⟨fun last same => Option.some.inj same ▸ ordinary, fun ending cools => ?_⟩
    by_cases running : e.status = .running
    · exact before.cooldown ending ((if_pos running).symm.trans cools)
    · exact QueueEntry.cooldownAfter_ordinary ordinary ((if_neg running).symm.trans cools)
  | @retryFailed _ _ now =>
    have ordinary := times now rfl
    exact ⟨fun last same => Option.some.inj same ▸ ordinary,
      fun ending cools => QueueEntry.cooldownAfter_ordinary ordinary cools⟩
  | @modeSet _ _ _ now =>
    refine ⟨before.attempted, fun ending cools => ?_⟩
    have start : (e.lastAttemptAt.getD now).IsOrdinary := by
      cases attempted : e.lastAttemptAt with
      | none => exact times now rfl
      | some last => exact before.attempted last attempted
    exact QueueEntry.cooldownAfter_ordinary start (QueueEntry.cooldown_of_withMode cools).2
  | @claimed _ _ _ _ now taken _ takes =>
    refine ⟨fun last same => ?_, fun ending cools => ?_⟩
    · rw [takes.attempted] at same
      exact Option.some.inj same ▸ times now rfl
    · rw [takes.cooldown] at cools
      cases cools
  | refused => exact before.clearElapsed _
  | attached => exact ⟨before.attempted, before.cooldown⟩
  | released => exact ⟨(held _ listed).attempted, (held _ listed).cooldown⟩

theorem Wanders.ordinary (run : Wanders (start policy maxAttempts) calls claims l)
    (times : ∀ c ∈ calls, ∀ now, c.time? = some now → now.IsOrdinary) :
    Bounded policy (max maxAttempts 1) QueueEntry.IsOrdinary claims l := by
  induction run with
  | refl => exact bounded_start policy maxAttempts _
  | @call calls claims l c leads listed ih =>
    have ih := ih fun d member => times d (List.mem_append_left _ member)
    have now_ordinary := times c (List.mem_append_right _ (List.mem_singleton_self c))
    refine ih.perform ?_ (fun e ordinary now _ => ordinary.clearElapsed now) ?_
    · intro e ordinary next told revises _
      exact revises.ordinary ordinary now_ordinary listed fun taken member =>
        ih.claims taken (List.mem_append_right _ member)
    · intro failed mode now fresh draw same
      have ordinary := now_ordinary now (by rw [same]; rfl)
      exact ⟨fun last same => Option.some.inj same ▸ ordinary,
        fun ending cools => QueueEntry.cooldownAfter_ordinary ordinary cools⟩

/-- A claim that is refused for a cooldown leaves the queue as it is. While nothing else happens to the
entry, claims without force are refused until the cooldown has ended, and succeed from then on. The
seconds that the refusal names are enough exactly if no more than one second was left, or a whole
number of them; one second more is enough in any case. -/
theorem claims_succeed_from_the_end_of_the_cooldown (run : Leads (start policy maxAttempts) calls l)
    (member : e ∈ l.queue.entries) {actor : String} {note : Option String} {now : Instant} {wait : Nat}
    (refused : (l.queue.claim e.id actor note false now).2 =
      .error (.notEligible e.id (.coolingDown wait))) :
    (l.queue.claim e.id actor note false now).1 = l.queue ∧
    ∃ ending, e.cooldownUntil = some ending ∧ now < ending ∧ wait = Queue.waitSeconds ending now ∧
      ∀ q : Queue, q.find? e.id = some e → ∀ actor note later,
        ((q.claim e.id actor note false later).2.isOk = true ↔ ending ≤ later) ∧
        (now.IsOrdinary → (∀ c ∈ calls, ∀ time, c.time? = some time → time.IsOrdinary) →
          (now.add? (wait * Instant.nanosPerSecond : Nat) = some later →
            ((q.claim e.id actor note false later).2.isOk = true ↔
              (ending - now : Int) ≤ Instant.nanosPerSecond ∨
                (Instant.nanosPerSecond : Int) ∣ (ending - now : Int))) ∧
          (now.add? ((wait + 1) * Instant.nanosPerSecond : Nat) = some later →
            (q.claim e.id actor note false later).2.isOk = true)) := by
  have sound := run.sound (sound_start policy maxAttempts)
  obtain ⟨claims, wanders, _⟩ := run.wanders
  obtain ⟨other, ending, found, cools, rfl⟩ := Queue.claim_waits (Prod.ext rfl refused)
  obtain rfl : e = other := Option.some.inj ((sound.find?_of_mem member).symm.trans found)
  refine ⟨?_, ending, cools.cooldown, cools.before, rfl, ?_⟩
  · rw [Queue.claim_denied sound.unique_ids wanders.regular.entries member cools.idle cools.not_isEligible]
  · intro q held actor note later
    rw [Queue.isOk_claim_of_coolsDown held cools]
    refine ⟨Iff.rfl, fun ordinary_now times => ?_⟩
    have ordinary_ending := ((wanders.ordinary times).entries e member).cooldown ending cools.cooldown
    exact ⟨Queue.wait_enough_iff ordinary_now ordinary_ending cools.before,
      Queue.wait_and_a_second_enough ordinary_now ordinary_ending cools.before⟩

/-- Half a second after a failure, with a cooldown of a minute: the refusal names 59 seconds, but a claim
is still refused 59 seconds later, and succeeds 60 seconds later. -/
theorem claims_after_half_a_second_of_cooldown :
    ∃ (calls : List Queue.Call) (l : Ledger),
      Leads (start (.ofSpans (.ofSeconds 60) (.ofSeconds 3600)) 3) calls l ∧
      ∃ e ∈ l.queue.entries,
        (l.queue.claim e.id "ops" none false ⟨0, 500000000⟩).2 =
          .error (.notEligible e.id (.coolingDown 59)) ∧
        (l.queue.claim e.id "ops" none false ⟨0, 500000000⟩).1 = l.queue ∧
        (l.queue.claim e.id "ops" none false ⟨59, 500000000⟩).2.isOk = false ∧
        (l.queue.claim e.id "ops" none false ⟨60, 500000000⟩).2.isOk = true := by
  let failed : Task := { Task.create ⟨.ofNat 1⟩ .all "ops" .epoch with status := .failed }
  let create : Queue.Call := .enqueue failed .auto .epoch ⟨.ofNat 1⟩ 0
  let l := (start (.ofSpans (.ofSeconds 60) (.ofSeconds 3600)) 3).perform create
  have run : Leads (start (.ofSpans (.ofSeconds 60) (.ofSeconds 3600)) 3) [create] l :=
    .call create .refl (by decide)
  have times : ∀ c ∈ [create], ∀ time, c.time? = some time → time.IsOrdinary := by
    intro c member time same
    obtain rfl := List.mem_singleton.mp member
    cases same
    decide
  obtain ⟨e, member, cooldown, refused⟩ : ∃ e ∈ l.queue.entries, e.cooldownUntil = some ⟨60, 0⟩ ∧
      (l.queue.claim e.id "ops" none false ⟨0, 500000000⟩).2 =
        .error (.notEligible e.id (.coolingDown 59)) := by
    decide +kernel
  obtain ⟨unchanged, ending, cools, _, _, claims⟩ := claims_succeed_from_the_end_of_the_cooldown run member refused
  obtain rfl : ending = ⟨60, 0⟩ := Option.some.inj (cools.symm.trans cooldown)
  have found := (run.sound (sound_start _ _)).find?_of_mem member
  refine ⟨_, l, run, e, member, refused, unchanged, ?_, ?_⟩
  · rw [← Bool.not_eq_true, (claims l.queue found "ops" none ⟨59, 500000000⟩).1]
    decide
  · exact ((claims l.queue found "ops" none ⟨60, 500000000⟩).2 (by decide) times).2 (by decide)

/-- The seconds that a refusal names are not always enough. -/
theorem named_seconds_are_too_few :
    ¬ ∀ (policy : CooldownPolicy) (maxAttempts : Nat) (calls : List Queue.Call) (l : Ledger),
      Leads (start policy maxAttempts) calls l → ∀ e ∈ l.queue.entries,
      ∀ (actor : String) (note : Option String) (now later : Instant) (wait : Nat),
        (l.queue.claim e.id actor note false now).2 = .error (.notEligible e.id (.coolingDown wait)) →
        now.add? (wait * Instant.nanosPerSecond : Nat) = some later →
        ((l.queue.claim e.id actor note false now).1.claim e.id actor note false later).2.isOk = true := by
  intro enough
  let failed : Task := { Task.create ⟨.ofNat 1⟩ .all "ops" .epoch with status := .failed }
  let create : Queue.Call := .enqueue failed .auto .epoch ⟨.ofNat 1⟩ 0
  let l := (start (.ofSpans (.ofSeconds 60) (.ofSeconds 3600)) 3).perform create
  have run : Leads (start (.ofSpans (.ofSeconds 60) (.ofSeconds 3600)) 3) [create] l :=
    .call create .refl (by decide)
  obtain ⟨e, member, refused, again⟩ : ∃ e ∈ l.queue.entries,
      (l.queue.claim e.id "ops" none false ⟨0, 500000000⟩).2 =
        .error (.notEligible e.id (.coolingDown 59)) ∧
      ((l.queue.claim e.id "ops" none false ⟨0, 500000000⟩).1.claim e.id "ops" none false
        ⟨59, 500000000⟩).2.isOk = false := by
    decide +kernel
  have succeeds := enough _ _ _ l run e member "ops" none ⟨0, 500000000⟩ ⟨59, 500000000⟩ 59 refused (by decide)
  rw [again] at succeeds
  cases succeeds

end Ledger

end Reindexing
