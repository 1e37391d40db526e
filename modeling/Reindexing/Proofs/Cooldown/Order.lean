import Reindexing.Proofs.Cooldown

/-!
# The order of cooldowns

More attempts never shorten a cooldown, and it stays between the base and the ceiling,
with jitter as well. Without jitter, and outside leap seconds, a cooldown ends at the
exact sum of its start and its length, cut at the latest instant: this is one minimum
of nanoseconds since the epoch, so that no end lies before its start and ends are
ordered as attempts and starts are.
-/
namespace Reindexing

/-- The instant lies exactly so many nanoseconds after the start, outside leap seconds. -/
structure Instant.IsAfter (t start : Instant) (nanos : Nat) : Prop where
  exists_t : t.Representable
  ordinary : t.IsOrdinary
  exactly : t.sinceEpoch = start.sinceEpoch + nanos

namespace CooldownPolicy

variable {p : CooldownPolicy} {a b : Nat} {f g ending : Instant} {delay : Span}

theorem nextCooldown_mono (fewer : a ≤ b) : p.nextCooldown a ≤ p.nextCooldown b := by
  have doubled : p.base.nanos * 2 ^ a ≤ p.base.nanos * 2 ^ b :=
    Nat.mul_le_mul_left _ (Nat.pow_le_pow_right (by decide) fewer)
  rw [nextCooldown_eq p b]
  split
  · next formed =>
    have sooner : a ≤ maxDoublings ∧ p.base.nanos * 2 ^ a ≤ Span.longest.nanos :=
      ⟨Nat.le_trans fewer formed.1, Nat.le_trans doubled formed.2⟩
    rw [nextCooldown_eq, if_pos sooner]
    exact Span.le_min (Nat.le_trans (Span.min_le_left _ _) doubled) (Span.min_le_right _ _)
  · exact p.nextCooldown_le_max a

theorem base_le_nextCooldown (below : p.base ≤ p.max) (attempts : Nat) : p.base ≤ p.nextCooldown attempts := by
  rw [nextCooldown_eq]
  split
  · exact Span.le_min (Nat.le_mul_of_pos_right _ (Nat.two_pow_pos attempts)) below
  · exact below

theorem base_le_max (base limit : Span) : base ≤ (ofSpans base limit).max := by
  rw [Span.le_iff, nanos_max_ofSpans]
  exact Nat.le_max_left _ _

/-- A span that is too long to be added reaches beyond the latest instant from every instant. -/
theorem latest_lt_of_longestDelta (exists_start : f.Representable) (long : ¬ delay ≤ Span.longestDelta) :
    Instant.latest.sinceEpoch < f.sinceEpoch + delay.nanos := by
  have first := exists_start.first
  have first_eq : Instant.minSecond = -8334601228800 := by decide
  have latest_eq : Instant.latest.sinceEpoch = 8210266876799999999999 := by decide
  have delta_eq : Span.longestDelta.nanos = 9223372036854775807000000 := by decide
  rw [Span.le_iff, delta_eq] at long
  rw [latest_eq]
  simp only [Instant.sinceEpoch, Instant.nanosPerSecond]
  omega

/-- The end of a cooldown in nanoseconds since the epoch: the exact sum, up to the latest instant. -/
theorem sinceEpoch_endOf (exists_start : f.Representable) (ordinary : f.IsOrdinary) (delay : Span) :
    (endOf delay f).sinceEpoch = min (f.sinceEpoch + delay.nanos) Instant.latest.sinceEpoch := by
  rw [endOf_eq]
  split
  · cases found : f.add? delay.nanos with
    | none =>
      have beyond := Instant.latest_lt_of_add?_eq_none exists_start ordinary found
      exact (Int.min_eq_right (Int.le_of_lt beyond)).symm
    | some ending =>
      obtain ⟨ordinary_ending, sum⟩ := Instant.add?_of_ordinary ordinary found
      have within := Instant.sinceEpoch_le (Instant.add?_le_latest exists_start found) ordinary_ending
      rw [← sum]
      exact (Int.min_eq_left within).symm
  · next long =>
    have beyond := latest_lt_of_longestDelta exists_start long
    exact (Int.min_eq_right (Int.le_of_lt beyond)).symm

/-- An earlier start lets a cooldown end earlier. -/
theorem endOf_mono_start (exists_f : f.Representable) (exists_g : g.Representable)
    (ordinary_f : f.IsOrdinary) (ordinary_g : g.IsOrdinary) (earlier : f ≤ g) (delay : Span) :
    endOf delay f ≤ endOf delay g := by
  rw [Instant.le_iff_sinceEpoch (endOf_ordinary ordinary_f delay) (endOf_ordinary ordinary_g delay),
    sinceEpoch_endOf exists_f ordinary_f, sinceEpoch_endOf exists_g ordinary_g]
  have sooner := Instant.sinceEpoch_le earlier ordinary_f
  omega

theorem endOf_eq_of_isAfter (exists_f : f.Representable) (ordinary_f : f.IsOrdinary)
    (after : ending.IsAfter f delay.nanos) : endOf delay f = ending := by
  refine Instant.eq_of_sinceEpoch (endOf_ordinary ordinary_f delay) after.ordinary ?_
  have within := Instant.sinceEpoch_le after.exists_t.last after.ordinary
  rw [sinceEpoch_endOf exists_f ordinary_f, ← after.exactly]
  exact Int.min_eq_left within

theorem endOf_representable (exists_f : f.Representable) (ordinary_f : f.IsOrdinary) (delay : Span) :
    (endOf delay f).Representable where
  first := by
    have start := le_endOf exists_f delay
    have first := exists_f.first
    rw [Instant.le_iff] at start
    omega
  last := endOf_le_latest exists_f delay
  nano := (endOf_ordinary ordinary_f delay).nano_lt

/-- Where the exact sum does not exist, the cooldown ends at the latest instant. -/
theorem endOf_eq_latest (exists_f : f.Representable) (ordinary_f : f.IsOrdinary)
    (overflows : ¬ ∃ sum : Instant, sum.IsAfter f delay.nanos) : endOf delay f = .latest := by
  have ordinary := endOf_ordinary ordinary_f delay
  have ends := sinceEpoch_endOf exists_f ordinary_f delay
  refine Instant.eq_of_sinceEpoch ordinary Instant.latest_ordinary ?_
  rcases Int.le_total Instant.latest.sinceEpoch (f.sinceEpoch + delay.nanos) with beyond | within
  · rw [ends, Int.min_eq_right beyond]
  · rw [Int.min_eq_left within] at ends
    exact absurd ⟨_, endOf_representable exists_f ordinary_f delay, ordinary, ends⟩ overflows

/-- Without jitter a policy of two spans ends its cooldowns as if nothing was drawn. -/
theorem cooldownUntil_ofSpans (base limit : Span) (attempts draw : Nat) (start : Instant) :
    (ofSpans base limit).cooldownUntil attempts draw start =
      some (endOf ((ofSpans base limit).nextCooldown attempts) start) := by
  have plain : ¬ (0.0 : Float) < (ofSpans base limit).jitter := by
    change ¬ (0.0 : Float) < 0.0
    decide
  exact cooldownUntil_of_no_jitter plain attempts draw start

/-- Cooldowns grow with the attempts, from the base to the ceiling. Jitter only adds to them, up to the
ceiling, for every draw that keeps the sum in range, and for no other draw is there a cooldown. Without
jitter there always is one, and outside leap seconds it does not end before it starts, ends later for more
attempts and for later starts, and ends at the exact sum or, where that does not exist, at the latest
instant. -/
theorem cooldowns_are_ordered_and_saturate (base limit : Span) (fewer : a ≤ b)
    (exists_f : f.Representable) (ordinary_f : f.IsOrdinary)
    (exists_g : g.Representable) (ordinary_g : g.IsOrdinary) (earlier : f ≤ g) :
    let p := ofSpans base limit
    (base ≤ p.nextCooldown a ∧ p.nextCooldown a ≤ p.nextCooldown b ∧ p.nextCooldown b ≤ p.max) ∧
    (∀ factor draw,
      ((p.withJitter factor).InRange a draw → ∃ jittered,
        (p.withJitter factor).jitteredCooldown a draw = some jittered ∧
          p.nextCooldown a ≤ jittered ∧ jittered ≤ p.max) ∧
      (¬ (p.withJitter factor).InRange a draw → (p.withJitter factor).jitteredCooldown a draw = none)) ∧
    ∀ draw redraw, ∃ ending later shifted, p.cooldownUntil a draw f = some ending ∧
      p.cooldownUntil b redraw f = some later ∧ p.cooldownUntil a redraw g = some shifted ∧
      (f ≤ ending ∧ ending ≤ later ∧ ending ≤ shifted) ∧
      (∀ sum : Instant, sum.IsAfter f (p.nextCooldown a).nanos → ending = sum) ∧
      ((¬ ∃ sum : Instant, sum.IsAfter f (p.nextCooldown a).nanos) → ending = .latest) := by
  intro p
  have below : p.base ≤ p.max := base_le_max base limit
  have grows : p.nextCooldown a ≤ p.nextCooldown b := nextCooldown_mono fewer
  refine ⟨⟨base_le_nextCooldown below a, grows, p.nextCooldown_le_max b⟩, ?_, ?_⟩
  · intro factor draw
    refine ⟨fun within => ?_, jitteredCooldown_eq_none_iff.mpr⟩
    rcases (p.withJitter factor).jitteredCooldown_cases a draw with ⟨jittered, formed, _, bounds⟩ | ⟨_, beyond⟩
    · exact ⟨jittered, formed, bounds⟩
    · exact absurd within beyond
  · intro draw redraw
    refine ⟨_, _, _, cooldownUntil_ofSpans .., cooldownUntil_ofSpans .., cooldownUntil_ofSpans .., ⟨?_, ?_, ?_⟩,
      ?_, ?_⟩
    · exact le_endOf exists_f _
    · exact endOf_mono exists_f grows
    · exact endOf_mono_start exists_f exists_g ordinary_f ordinary_g earlier _
    · exact fun sum after => endOf_eq_of_isAfter exists_f ordinary_f after
    · exact endOf_eq_latest exists_f ordinary_f

/-- Five seconds before the latest second: a cooldown of four seconds ends one second before it, and the next
one, of eight seconds, ends at the latest instant. -/
theorem cooldowns_at_the_end_of_time :
    let p := ofSpans (.ofSeconds 4) (.ofSeconds 60)
    let start : Instant := ⟨Instant.maxSecond - 5, 0⟩
    p.cooldownUntil 0 0 start = some ⟨Instant.maxSecond - 1, 0⟩ ∧ p.cooldownUntil 1 0 start = some .latest ∧
      (∃ later, p.cooldownUntil 40 0 start = some later ∧ ⟨Instant.maxSecond - 1, 0⟩ ≤ later) ∧
      p.nextCooldown 40 ≤ .ofSeconds 60 ∧
      ∃ jittered, (p.withJitter 0.5).jitteredCooldown 1 7 = some jittered ∧ jittered ≤ .ofSeconds 60 := by
  intro p start
  have exists_start : start.Representable := by decide
  have ordinary : start.IsOrdinary := by decide
  have first := cooldowns_are_ordered_and_saturate (.ofSeconds 4) (.ofSeconds 60) (show 0 ≤ 40 by decide)
    exists_start ordinary exists_start ordinary (Instant.le_refl start)
  have second := cooldowns_are_ordered_and_saturate (.ofSeconds 4) (.ofSeconds 60) (show 1 ≤ 40 by decide)
    exists_start ordinary exists_start ordinary (Instant.le_refl start)
  obtain ⟨⟨_, _, highest⟩, _, ends⟩ := first
  obtain ⟨ending, later, _, ends_first, ends_later, _, ⟨_, grows, _⟩, exactly, _⟩ := ends 0 0
  obtain rfl := exactly ⟨Instant.maxSecond - 1, 0⟩ ⟨by decide, by decide, by decide⟩
  obtain ⟨_, jittered, ends⟩ := second
  obtain ⟨last, _, _, ends_last, _, _, _, _, latest⟩ := ends 0 0
  obtain rfl : last = .latest := by
    refine latest ?_
    rintro ⟨sum, after⟩
    have within := Instant.sinceEpoch_le after.exists_t.last after.ordinary
    rw [after.exactly] at within
    exact absurd within (by decide)
  obtain ⟨delay, formed, _, shorter⟩ := (jittered 0.5 7).1 (by decide +kernel)
  exact ⟨ends_first, ends_last, ⟨later, ends_later, grows⟩, highest, delay, formed, shorter⟩

end CooldownPolicy

end Reindexing
