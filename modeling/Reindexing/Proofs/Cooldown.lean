import Mathlib.Algebra.Group.Nat.Defs
import Reindexing.Cooldown
import Reindexing.Proofs.Time.Instants

/-!
# Cooldowns and their ends

A cooldown is the base, doubled for every attempt, up to a ceiling. For as many
attempts as their power of two is formed this holds in exact arithmetic, since a
product that is no span any more lies above every ceiling. From then on the cooldown
is the ceiling at once, and a short base doubled so often need not have reached it.

The draw for the jitter only ever prolongs a cooldown, and a longer cooldown from
the same start ends later, also where it ends at the latest instant. So no draw
lets a cooldown end before the end that it has without jitter, or after the end of
the longest wait of its policy.

The part that is drawn is added before the sum is cut at the ceiling. Near the
longest span there are draws for which the sum is none, and then there is no
cooldown at all. No draw of 64 bits does this to a policy whose ceiling lies as
many milliseconds below the longest span.
-/
namespace Reindexing

namespace Span

theorem le_iff {a b : Span} : a ≤ b ↔ a.nanos ≤ b.nanos := Iff.rfl

@[simp] theorem nanos_min (a b : Span) : (min a b).nanos = min a.nanos b.nanos := by
  change (if a.nanos ≤ b.nanos then a else b).nanos = _
  split <;> omega

@[simp] theorem nanos_max (a b : Span) : (max a b).nanos = max a.nanos b.nanos := by
  change (if a.nanos ≤ b.nanos then b else a).nanos = _
  split <;> omega

theorem min_le_left (a b : Span) : min a b ≤ a := by
  rw [le_iff, nanos_min]
  exact Nat.min_le_left _ _

theorem min_le_right (a b : Span) : min a b ≤ b := by
  rw [le_iff, nanos_min]
  exact Nat.min_le_right _ _

theorem le_min {a b c : Span} (left : c ≤ a) (right : c ≤ b) : c ≤ min a b := by
  rw [le_iff, nanos_min]
  exact Nat.le_min.mpr ⟨left, right⟩

end Span

namespace CooldownPolicy

variable {p : CooldownPolicy} {attempts draw : Nat} {delay longer : Span} {start : Instant}

/-- The random part that `draw` chooses. -/
def jitterPart (p : CooldownPolicy) (attempts draw : Nat) : Span :=
  .ofMillis (min draw (p.spreadMillis (p.nextCooldown attempts)))

/-- Nothing is added to the wait, or its sum with the random part is no longer than the longest span. -/
def InRange (p : CooldownPolicy) (attempts draw : Nat) : Prop :=
  p.spreadMillis (p.nextCooldown attempts) = 0 ∨
    (p.nextCooldown attempts).nanos + (p.jitterPart attempts draw).nanos ≤ Span.longest.nanos

instance (p : CooldownPolicy) (attempts draw : Nat) : Decidable (p.InRange attempts draw) :=
  inferInstanceAs (Decidable (_ ∨ _))

/-- When an entry with so many attempts may be retried again, if there is no jitter. -/
def plainCooldownUntil (p : CooldownPolicy) (attempts : Nat) (start : Instant) : Instant :=
  endOf (p.nextCooldown attempts) start

/-- A product is cut at the ceiling; where none is formed, the cooldown is the ceiling. -/
theorem nextCooldown_eq (p : CooldownPolicy) (attempts : Nat) :
    p.nextCooldown attempts =
      if attempts ≤ maxDoublings ∧ p.base.nanos * 2 ^ attempts ≤ Span.longest.nanos then
        min ⟨p.base.nanos * 2 ^ attempts⟩ p.max
      else p.max := by
  unfold nextCooldown Span.scale?
  rw [Nat.pow_eq]
  by_cases few : attempts ≤ maxDoublings
  · by_cases fits : p.base.nanos * 2 ^ attempts ≤ Span.longest.nanos
    · simp only [few, fits, and_self, if_true]
    · simp only [few, fits, and_false, if_true, if_false]
  · simp only [few, false_and, if_false]

theorem nextCooldown_le_max (p : CooldownPolicy) (attempts : Nat) : p.nextCooldown attempts ≤ p.max := by
  rw [nextCooldown_eq]
  split
  · exact Span.min_le_right _ _
  · exact Nat.le_refl _

/-- There is a jittered cooldown exactly if the sum is in range, and it lies between the one without jitter
and the ceiling. -/
theorem jitteredCooldown_cases (p : CooldownPolicy) (attempts draw : Nat) :
    (∃ jittered, p.jitteredCooldown attempts draw = some jittered ∧ p.InRange attempts draw ∧
      p.nextCooldown attempts ≤ jittered ∧ jittered ≤ p.max) ∨
    (p.jitteredCooldown attempts draw = none ∧ ¬ p.InRange attempts draw) := by
  have below := p.nextCooldown_le_max attempts
  by_cases none_added : p.spreadMillis (p.nextCooldown attempts) = 0
  · have plain : p.jitteredCooldown attempts draw = some (p.nextCooldown attempts) := if_pos none_added
    exact .inl ⟨_, plain, .inl none_added, Nat.le_refl _, below⟩
  · have summed : p.jitteredCooldown attempts draw =
        ((p.nextCooldown attempts).add? (p.jitterPart attempts draw)).map fun sum => min sum p.max :=
      if_neg none_added
    rw [summed]
    unfold Span.add?
    split
    · next short =>
      -- The sum is cut at the ceiling, which the wait without jitter keeps as well.
      exact .inl ⟨_, rfl, .inr short, Span.le_min (Nat.le_add_right _ _) below, Span.min_le_right _ _⟩
    · next long => exact .inr ⟨rfl, fun within => within.elim none_added long⟩

theorem jitteredCooldown_eq_none_iff : p.jitteredCooldown attempts draw = none ↔ ¬ p.InRange attempts draw := by
  rcases p.jitteredCooldown_cases attempts draw with ⟨_, formed, within, _⟩ | ⟨none_formed, beyond⟩
  · rw [formed]
    exact ⟨nofun, fun beyond => absurd within beyond⟩
  · exact iff_of_true none_formed beyond

theorem inRange_of_no_jitter (plain : ¬ (0.0 : Float) < p.jitter) (attempts draw : Nat) :
    p.InRange attempts draw := .inl (if_neg plain)

/-- A random part has at most 64 bits of milliseconds, so that it fits below the longest span if the ceiling
leaves room for that. -/
theorem inRange_of_max_le (room : p.max.nanos + (Span.ofMillis Word.max64).nanos ≤ Span.longest.nanos)
    (attempts draw : Nat) : p.InRange attempts draw := by
  have spread : p.spreadMillis (p.nextCooldown attempts) ≤ Word.max64 := by
    unfold spreadMillis
    split
    · exact Nat.le_of_lt_succ (UInt64.toNat_lt _)
    · exact Nat.zero_le _
  have part : (p.jitterPart attempts draw).nanos ≤ (Span.ofMillis Word.max64).nanos :=
    Nat.mul_le_mul_right _ (Nat.le_trans (Nat.min_le_right _ _) spread)
  exact .inr (Nat.le_trans (Nat.add_le_add (p.nextCooldown_le_max attempts) part) room)

/-- Without jitter the draw does not matter. -/
theorem cooldownUntil_of_no_jitter (plain : ¬ (0.0 : Float) < p.jitter) (attempts draw : Nat) (start : Instant) :
    p.cooldownUntil attempts draw start = some (p.plainCooldownUntil attempts start) := by
  have spread : p.spreadMillis (p.nextCooldown attempts) = 0 := if_neg plain
  rw [cooldownUntil, plainCooldownUntil, jitteredCooldown, spread, if_pos rfl, Option.map_some]

theorem keptUntil_of_no_jitter (plain : ¬ (0.0 : Float) < p.jitter) (attempts draw : Nat) (start : Instant) :
    p.keptUntil attempts draw start = p.plainCooldownUntil attempts start := by
  rw [keptUntil, cooldownUntil_of_no_jitter plain, Option.getD_some]

/-- An end that is kept is the end of a wait between the one without jitter and the longest one. -/
theorem keptUntil_eq_endOf (p : CooldownPolicy) (attempts draw : Nat) (start : Instant) :
    ∃ delay, p.keptUntil attempts draw start = endOf delay start ∧ p.nextCooldown attempts ≤ delay ∧
      delay ≤ p.max := by
  rcases p.jitteredCooldown_cases attempts draw with ⟨delay, formed, _, longer, shorter⟩ | ⟨none_formed, _⟩
  · refine ⟨delay, ?_, longer, shorter⟩
    rw [keptUntil, cooldownUntil, formed, Option.map_some, Option.getD_some]
  · refine ⟨p.max, ?_, p.nextCooldown_le_max attempts, Nat.le_refl _⟩
    rw [keptUntil, cooldownUntil, none_formed, Option.map_none, Option.getD_none, ceiling]

theorem endOf_eq (delay : Span) (start : Instant) :
    endOf delay start =
      if delay ≤ Span.longestDelta then (start.add? delay.nanos).getD .latest else .latest := by
  unfold endOf Span.toDelta?
  split <;> rfl

theorem endOf_le_latest (exists_start : start.Representable) (delay : Span) :
    endOf delay start ≤ .latest := by
  rw [endOf_eq]
  split
  · cases found : start.add? delay.nanos with
    | none => exact Instant.le_refl _
    | some ending => exact Instant.add?_le_latest exists_start found
  · exact Instant.le_refl _

/-- A longer cooldown ends later. -/
theorem endOf_mono (exists_start : start.Representable) (le : delay ≤ longer) :
    endOf delay start ≤ endOf longer start := by
  have latest := endOf_le_latest exists_start delay
  rw [endOf_eq longer]
  split
  · next short =>
    cases found : start.add? longer.nanos with
    | none => exact latest
    | some ending =>
      obtain ⟨sooner, earlier, before⟩ := Instant.add?_mono exists_start le found
      have shorter : delay ≤ Span.longestDelta := Nat.le_trans le short
      rw [endOf_eq, if_pos shorter, earlier]
      exact before
  · exact latest

theorem plainCooldownUntil_le (exists_start : start.Representable) (attempts draw : Nat) :
    p.plainCooldownUntil attempts start ≤ p.keptUntil attempts draw start := by
  obtain ⟨delay, kept, longer, _⟩ := p.keptUntil_eq_endOf attempts draw start
  rw [kept]
  exact endOf_mono exists_start longer

theorem le_endOf (exists_start : start.Representable) (delay : Span) : start ≤ endOf delay start := by
  rw [endOf_eq]
  split
  · cases found : start.add? delay.nanos with
    | none => exact exists_start.last
    | some ending => exact Instant.le_of_add? exists_start found
  · exact exists_start.last

theorem endOf_ordinary (ordinary : start.IsOrdinary) (delay : Span) : (endOf delay start).IsOrdinary := by
  rw [endOf_eq]
  split
  · cases found : start.add? delay.nanos with
    | none => exact Instant.latest_ordinary
    | some ending => exact (Instant.add?_of_ordinary ordinary found).1
  · exact Instant.latest_ordinary

theorem le_keptUntil (exists_start : start.Representable) (attempts draw : Nat) :
    start ≤ p.keptUntil attempts draw start := by
  obtain ⟨delay, kept, _⟩ := p.keptUntil_eq_endOf attempts draw start
  rw [kept]
  exact le_endOf exists_start delay

theorem keptUntil_le_ceiling (exists_start : start.Representable) (attempts draw : Nat) :
    p.keptUntil attempts draw start ≤ p.ceiling start := by
  obtain ⟨delay, kept, _, shorter⟩ := p.keptUntil_eq_endOf attempts draw start
  rw [kept]
  exact endOf_mono exists_start shorter

end CooldownPolicy

end Reindexing

/-! ### The formula -/

namespace Reindexing.CooldownPolicy

variable {p : CooldownPolicy} {attempts : Nat}

theorem nextCooldown_of_few (few : attempts ≤ maxDoublings) (short : p.max ≤ .longest) :
    (p.nextCooldown attempts).nanos = min (p.base.nanos * 2 ^ attempts) p.max.nanos := by
  rw [nextCooldown_eq]
  by_cases fits : p.base.nanos * 2 ^ attempts ≤ Span.longest.nanos
  · rw [if_pos ⟨few, fits⟩, Span.nanos_min]
  · rw [if_neg fun both => fits both.2]
    have above : p.max.nanos ≤ p.base.nanos * 2 ^ attempts := Nat.le_trans short (Nat.le_of_not_le fits)
    exact (Nat.min_eq_right above).symm

theorem nextCooldown_of_many (many : maxDoublings < attempts) : p.nextCooldown attempts = p.max := by
  rw [nextCooldown_eq, if_neg fun both => Nat.not_le.mpr many both.1]

theorem nanos_max_ofSpans (base limit : Span) :
    (ofSpans base limit).max.nanos = Max.max base.nanos limit.nanos := by
  rw [ofSpans, Span.nanos_max, Nat.max_comm]

/-- The cooldown is the base doubled for every attempt, up to the greater one of base and limit, exactly if
powers of two are formed for so many attempts or the doubled base has reached that ceiling. From 32 attempts
on the cooldown is the ceiling in any case. -/
theorem cooldown_doubles_unless_cut_off (base limit : Span) (base_short : base ≤ .longest)
    (limit_short : limit ≤ .longest) (attempts : Nat) :
    (((ofSpans base limit).nextCooldown attempts).nanos =
        min (base.nanos * 2 ^ attempts) (Max.max base.nanos limit.nanos) ↔
      attempts ≤ maxDoublings ∨ Max.max base.nanos limit.nanos ≤ base.nanos * 2 ^ attempts) ∧
    (maxDoublings < attempts →
      ((ofSpans base limit).nextCooldown attempts).nanos = Max.max base.nanos limit.nanos) := by
  have ceiling := nanos_max_ofSpans base limit
  have short : (ofSpans base limit).max ≤ .longest := by
    rw [Span.le_iff, ceiling]
    exact Nat.max_le.mpr ⟨base_short, limit_short⟩
  have cut (many : maxDoublings < attempts) :
      ((ofSpans base limit).nextCooldown attempts).nanos = Max.max base.nanos limit.nanos := by
    rw [nextCooldown_of_many many, ceiling]
  refine ⟨?_, cut⟩
  by_cases few : attempts ≤ maxDoublings
  · have doubled := nextCooldown_of_few few short
    rw [ceiling] at doubled
    exact iff_of_true doubled (.inl few)
  · rw [cut (Nat.lt_of_not_le few), or_iff_right few]
    exact ⟨fun same => same ▸ Nat.min_le_left _ _, fun reached => (Nat.min_eq_right reached).symm⟩

/-- A base of a microsecond under a limit of two hours: it is doubled up to the 31st attempt, the 32nd would
make it 72 minutes but gets the limit, which the 33rd reaches in any case. -/
theorem microsecond_doubled_thirty_three_times :
    let p := ofSpans ⟨1000⟩ (.ofSeconds 7200)
    (p.nextCooldown 31).nanos = 2147483648000 ∧ (p.nextCooldown 32).nanos = 7200000000000 ∧
      (p.nextCooldown 33).nanos = min (1000 * 2 ^ 33) 7200000000000 := by
  have formula := cooldown_doubles_unless_cut_off ⟨1000⟩ (.ofSeconds 7200) (by decide) (by decide)
  exact ⟨(formula 31).1.mpr (.inl (by decide)), (formula 32).2 (by decide),
    (formula 33).1.mpr (.inr (by decide))⟩

/-- A short base does not reach the ceiling by the 32nd attempt: it is cut off there. -/
theorem short_base_is_cut_off :
    ¬ ∀ base limit : Span, base ≤ .longest → limit ≤ .longest → ∀ attempts ≤ Word.max32,
      ((ofSpans base limit).nextCooldown attempts).nanos =
        min (base.nanos * 2 ^ attempts) (Max.max base.nanos limit.nanos) := by
  intro follows
  have doubled := follows ⟨1000⟩ (.ofSeconds 7200) (by decide) (by decide) 32 (by decide)
  have cut : ((ofSpans ⟨1000⟩ (.ofSeconds 7200)).nextCooldown 32).nanos = 7200000000000 := by decide
  have exact_product : min (1000 * 2 ^ 32) (Max.max 1000 (Span.ofSeconds 7200).nanos) = 4294967296000 := by decide
  rw [cut] at doubled
  exact absurd (doubled.trans exact_product) (by decide)

end Reindexing.CooldownPolicy
