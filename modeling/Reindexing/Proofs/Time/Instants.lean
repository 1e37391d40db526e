import Reindexing.Time.Instant

/-!
# The order of instants

Instants are totally ordered. Adding a span moves an instant forward, the further
the longer the span is, and never beyond the latest instant; for that the instant
must be one that exists, since a leap second after the latest instant would stay
where it is under a span that is short enough. Outside leap seconds, order, sums
and differences are those of the nanoseconds since the epoch.
-/
namespace Reindexing.Instant

variable {a b c t : Instant} {nanos more : Nat}

theorem le_iff : a ≤ b ↔ a.second < b.second ∨ a.second = b.second ∧ a.nano ≤ b.nano := Iff.rfl

theorem lt_iff : a < b ↔ a.second < b.second ∨ a.second = b.second ∧ a.nano < b.nano := Iff.rfl

@[simp] protected theorem le_refl (a : Instant) : a ≤ a := le_iff.mpr (.inr ⟨rfl, Nat.le_refl _⟩)

protected theorem sub_self (a : Instant) : (a - a : Int) = 0 := by
  change Instant.sub a a = 0
  simp [Instant.sub]

protected theorem le_trans (first : a ≤ b) (second : b ≤ c) : a ≤ c := by
  rw [le_iff] at *
  omega

protected theorem le_total (a b : Instant) : a ≤ b ∨ b ≤ a := by
  rw [le_iff, le_iff]
  omega

protected theorem lt_of_lt_of_le (first : a < b) (second : b ≤ c) : a < c := by
  rw [lt_iff] at *
  rw [le_iff] at second
  omega

protected theorem not_lt : ¬ a < b ↔ b ≤ a := by
  rw [lt_iff, le_iff]
  omega

protected theorem le_max_right (a b : Instant) : b ≤ max a b := by
  change b ≤ if a ≤ b then b else a
  split
  · exact Instant.le_refl b
  · next above =>
    rw [le_iff] at *
    omega

/-- An instant within the years that exist; a leap second has less than two billion nanoseconds. -/
structure Representable (t : Instant) : Prop where
  first : minSecond ≤ t.second
  last : t ≤ latest
  nano : t.nano < 2 * nanosPerSecond

instance (t : Instant) : Decidable t.Representable :=
  decidable_of_iff (minSecond ≤ t.second ∧ t ≤ latest ∧ t.nano < 2 * nanosPerSecond)
    ⟨fun ⟨first, last, nano⟩ => ⟨first, last, nano⟩, fun ⟨first, last, nano⟩ => ⟨first, last, nano⟩⟩

/-! ### Later instants -/

private theorem nanosPerSecond_eq : nanosPerSecond = 1000000000 := rfl

/-- The instant is still in its leap second so many nanoseconds later. -/
def Lingers (t : Instant) (nanos : Nat) : Prop :=
  nanosPerSecond ≤ t.nano ∧ t.nano + nanos < 2 * nanosPerSecond

instance (t : Instant) (nanos : Nat) : Decidable (t.Lingers nanos) := inferInstanceAs (Decidable (_ ∧ _))

/-- The nanoseconds from the start of the second in the ordinary count of seconds, in which a leap
second is the start of the next one. -/
def sinceSecond (t : Instant) : Nat := if nanosPerSecond ≤ t.nano then t.nano - nanosPerSecond else t.nano

/-- The instant so many nanoseconds later, whether it exists or not. -/
def later (t : Instant) (nanos : Nat) : Instant :=
  if t.Lingers nanos then ⟨t.second, t.nano + nanos⟩
  else
    ⟨t.second + ((t.sinceSecond + nanos) / nanosPerSecond : Nat), (t.sinceSecond + nanos) % nanosPerSecond⟩

theorem sinceSecond_cases (t : Instant) :
    (nanosPerSecond ≤ t.nano ∧ t.sinceSecond + nanosPerSecond = t.nano) ∨
      (t.nano < nanosPerSecond ∧ t.sinceSecond = t.nano) := by
  unfold sinceSecond
  by_cases leap : nanosPerSecond ≤ t.nano
  · rw [if_pos leap]
    omega
  · rw [if_neg leap]
    omega

theorem sinceSecond_lt (nano : t.nano < 2 * nanosPerSecond) : t.sinceSecond < nanosPerSecond := by
  rcases sinceSecond_cases t with ⟨_, _⟩ | ⟨_, _⟩ <;> omega

/-- Seconds and nanoseconds that are not negative carry over into the next second. -/
theorem shift_of_nonneg (second : Int) {nano rest : Nat} (seconds : Nat) (small : nano < nanosPerSecond)
    (part : rest < nanosPerSecond) :
    shift second nano seconds rest =
      ⟨second + (seconds + (nano + rest) / nanosPerSecond : Nat), (nano + rest) % nanosPerSecond⟩ := by
  have positive : ¬ ((nano : Int) + rest < 0) := by omega
  rw [shift, if_neg positive]
  by_cases carries : (nanosPerSecond : Int) ≤ nano + rest
  · rw [if_pos carries]
    simp only [nanosPerSecond] at *
    congr 1 <;> omega
  · rw [if_neg carries]
    simp only [nanosPerSecond] at *
    congr 1 <;> omega

/-- Adding nanoseconds that are not negative leads to the later instant, if that exists. -/
theorem add?_eq_later (nano : t.nano < 2 * nanosPerSecond) (nanos : Nat) :
    t.add? nanos = if inRange (t.later nanos).second then some (t.later nanos) else none := by
  obtain ⟨seconds, seconds_def⟩ : ∃ n, n = nanos / nanosPerSecond := ⟨_, rfl⟩
  obtain ⟨rest, rest_def⟩ : ∃ n, n = nanos % nanosPerSecond := ⟨_, rfl⟩
  have seconds_eq : (nanos : Int).tdiv nanosPerSecond = seconds := by
    rw [seconds_def]
    exact (Int.ofNat_tdiv ..).symm
  have rest_eq : (nanos : Int).tmod nanosPerSecond = rest := by
    rw [rest_def]
    exact (Int.ofNat_tmod ..).symm
  have part : rest < nanosPerSecond := rest_def ▸ Nat.mod_lt _ (by decide)
  have moved : shift t.second t.sinceSecond seconds rest =
      ⟨t.second + ((t.sinceSecond + nanos) / nanosPerSecond : Nat),
        (t.sinceSecond + nanos) % nanosPerSecond⟩ := by
    rw [shift_of_nonneg t.second seconds (sinceSecond_lt nano) part]
    simp only [nanosPerSecond] at *
    congr 1 <;> omega
  rw [add?, seconds_eq, rest_eq]
  -- Both sides differ only in how they compute the instant that is checked to be in range.
  suffices same : (if t.isLeap then
      if 0 < (seconds : Int) ∨ 0 < (rest : Int) ∧ 2 * (nanosPerSecond : Int) ≤ t.nano + rest then
        shift t.second (t.nano - nanosPerSecond) seconds rest
      else if (seconds : Int) < 0 then shift (t.second + 1) (t.nano - nanosPerSecond) seconds rest
      else ⟨t.second, ((t.nano : Int) + rest).toNat⟩
    else shift t.second t.nano seconds rest) = t.later nanos by
    simp only [same]
  have whole : seconds * 1000000000 + rest = nanos := by
    rw [seconds_def, rest_def]
    exact Nat.div_add_mod' ..
  have unit := nanosPerSecond_eq
  rcases sinceSecond_cases t with ⟨leap, since⟩ | ⟨ordinary, since⟩
  · have leaps : t.isLeap = true := decide_eq_true leap
    have cast : (t.nano : Int) - nanosPerSecond = t.sinceSecond := by omega
    rw [if_pos leaps, cast, moved, later]
    by_cases short : t.nano + nanos < 2 * nanosPerSecond
    · rw [if_neg (by omega), if_neg (by omega), if_pos ⟨leap, short⟩]
      congr 1
      omega
    · rw [if_neg fun lingers : t.Lingers nanos => short lingers.2, if_pos (by omega)]
  · have leaps : ¬ t.isLeap = true := fun h => Nat.not_le.mpr ordinary (of_decide_eq_true h)
    rw [if_neg leaps, ← since, moved, later, if_neg fun lingers : t.Lingers nanos =>
      Nat.not_le.mpr ordinary lingers.1]

theorem later_of_lingers (lingers : t.Lingers nanos) : t.later nanos = ⟨t.second, t.nano + nanos⟩ :=
  if_pos lingers

theorem later_of_not_lingers (moves : ¬ t.Lingers nanos) :
    t.later nanos =
      ⟨t.second + ((t.sinceSecond + nanos) / nanosPerSecond : Nat),
        (t.sinceSecond + nanos) % nanosPerSecond⟩ :=
  if_neg moves

/-- A leap second that is over has become the next second at least. -/
theorem second_lt_of_over (nano : t.nano < 2 * nanosPerSecond) (leap : nanosPerSecond ≤ t.nano)
    (moves : ¬ t.Lingers nanos) : t.second < (t.later nanos).second := by
  have ended : 2 * nanosPerSecond ≤ t.nano + nanos := Nat.not_lt.mp fun short => moves ⟨leap, short⟩
  have since := sinceSecond_cases t
  rw [later_of_not_lingers moves]
  simp only [nanosPerSecond] at *
  omega

theorem later_mono (nano : t.nano < 2 * nanosPerSecond) (le : nanos ≤ more) :
    t.later nanos ≤ t.later more := by
  by_cases longer : t.Lingers more
  · have shorter : t.Lingers nanos := ⟨longer.1, Nat.lt_of_le_of_lt (Nat.add_le_add_left le _) longer.2⟩
    rw [later_of_lingers shorter, later_of_lingers longer, le_iff]
    exact .inr ⟨rfl, Nat.add_le_add_left le _⟩
  · by_cases shorter : t.Lingers nanos
    · rw [later_of_lingers shorter]
      exact .inl (second_lt_of_over nano shorter.1 longer)
    · rw [later_of_not_lingers shorter, later_of_not_lingers longer, le_iff]
      simp only [nanosPerSecond]
      omega

theorem second_le_later (t : Instant) (nanos : Nat) : t.second ≤ (t.later nanos).second := by
  by_cases lingers : t.Lingers nanos
  · exact Int.le_of_eq (congrArg Instant.second (later_of_lingers lingers)).symm
  · rw [later_of_not_lingers lingers]
    exact Int.le_add_of_nonneg_right (Int.natCast_nonneg _)

theorem le_later (nano : t.nano < 2 * nanosPerSecond) (nanos : Nat) : t ≤ t.later nanos := by
  have start : t = t.later 0 := by
    by_cases lingers : t.Lingers 0
    · exact (later_of_lingers lingers).symm
    · rcases sinceSecond_cases t with ⟨leap, _⟩ | ⟨ordinary, since⟩
      · exact absurd ⟨leap, nano⟩ lingers
      · rw [later_of_not_lingers lingers, since, Nat.add_zero, Nat.div_eq_of_lt ordinary,
          Nat.mod_eq_of_lt ordinary]
        simp
  calc
    t = t.later 0 := start
    _ ≤ t.later nanos := later_mono nano (Nat.zero_le nanos)

theorem le_of_add? (exists_t : t.Representable) (found : t.add? nanos = some a) : t ≤ a := by
  rw [add?_eq_later exists_t.nano] at found
  split at found
  · obtain rfl := Option.some.inj found
    exact le_later exists_t.nano nanos
  · cases found

/-- What is added to an instant that exists does not lead beyond the latest one. -/
theorem add?_le_latest (exists_t : t.Representable) (found : t.add? nanos = some a) : a ≤ latest := by
  rw [add?_eq_later exists_t.nano] at found
  by_cases within : inRange (t.later nanos).second
  · rw [if_pos within] at found
    obtain rfl := Option.some.inj found
    have last : (t.later nanos).second ≤ maxSecond := by
      simp only [inRange, Bool.and_eq_true, decide_eq_true_eq] at within
      exact within.2
    rw [le_iff]
    simp only [latest]
    by_cases lingers : t.Lingers nanos
    · -- Then `t` is a leap second itself, so its second is not the last one.
      have before := le_iff.mp exists_t.last
      have leap := lingers.1
      rw [later_of_lingers lingers]
      simp only [latest, nanosPerSecond] at before leap ⊢
      omega
    · rw [later_of_not_lingers lingers] at last ⊢
      simp only [nanosPerSecond] at last ⊢
      omega
  · rw [if_neg within] at found
    cases found

/-- If the later one of two instants exists, the earlier one does. -/
theorem add?_mono (exists_t : t.Representable) (le : nanos ≤ more) (found : t.add? more = some b) :
    ∃ a, t.add? nanos = some a ∧ a ≤ b := by
  have mono := later_mono exists_t.nano le
  rw [add?_eq_later exists_t.nano] at found
  by_cases within : inRange (t.later more).second
  · rw [if_pos within] at found
    obtain rfl := Option.some.inj found
    refine ⟨t.later nanos, ?_, mono⟩
    have start := t.second_le_later nanos
    have first := exists_t.first
    rw [add?_eq_later exists_t.nano, if_pos]
    rw [le_iff] at mono
    simp only [inRange, Bool.and_eq_true, decide_eq_true_eq] at within ⊢
    omega
  · rw [if_neg within] at found
    cases found

/-! ### Outside leap seconds -/

/-- The instant lies outside leap seconds. -/
def IsOrdinary (t : Instant) : Prop := t.nano < nanosPerSecond

instance (t : Instant) : Decidable t.IsOrdinary := inferInstanceAs (Decidable (_ < _))

theorem latest_ordinary : latest.IsOrdinary := by decide

/-- The nanoseconds since 1970-01-01T00:00:00Z. -/
def sinceEpoch (t : Instant) : Int := t.second * nanosPerSecond + t.nano

/-- Outside leap seconds a difference is that of the nanoseconds since the epoch. -/
theorem sub_of_ordinary {a b : Instant} (ordinary_a : a.nano < nanosPerSecond)
    (ordinary_b : b.nano < nanosPerSecond) : b - a = b.sinceEpoch - a.sinceEpoch := by
  have leap_a : a.isLeap = false := decide_eq_false (Nat.not_le.mpr ordinary_a)
  have leap_b : b.isLeap = false := decide_eq_false (Nat.not_le.mpr ordinary_b)
  change Instant.sub b a = _
  simp only [Instant.sub, leap_a, leap_b, Bool.false_eq_true, and_false, if_false, sinceEpoch, nanosPerSecond]
  omega

theorem sinceEpoch_le {a b : Instant} (le : a ≤ b) (ordinary_a : a.nano < nanosPerSecond) :
    a.sinceEpoch ≤ b.sinceEpoch := by
  rw [le_iff] at le
  simp only [sinceEpoch, nanosPerSecond] at *
  omega

/-- The whole milliseconds of a stretch of time are those that have fully passed. -/
theorem wholeMillis_sub_eq_iff {a b : Instant} {millis : Int} (le : a ≤ b)
    (ordinary_a : a.nano < nanosPerSecond) (ordinary_b : b.nano < nanosPerSecond) :
    wholeMillis (b - a) = millis ↔
      millis * 1000000 ≤ b.sinceEpoch - a.sinceEpoch ∧ b.sinceEpoch - a.sinceEpoch < (millis + 1) * 1000000 := by
  have forward : 0 ≤ b.sinceEpoch - a.sinceEpoch := Int.sub_nonneg_of_le (sinceEpoch_le le ordinary_a)
  rw [sub_of_ordinary ordinary_a ordinary_b, wholeMillis, Int.tdiv_eq_ediv_of_nonneg forward]
  omega

theorem le_iff_sinceEpoch (ordinary_a : a.IsOrdinary) (ordinary_b : b.IsOrdinary) :
    a ≤ b ↔ a.sinceEpoch ≤ b.sinceEpoch := by
  simp only [IsOrdinary, le_iff, sinceEpoch, nanosPerSecond] at *
  omega

theorem lt_iff_sinceEpoch (ordinary_a : a.IsOrdinary) (ordinary_b : b.IsOrdinary) :
    a < b ↔ a.sinceEpoch < b.sinceEpoch := by
  simp only [IsOrdinary, lt_iff, sinceEpoch, nanosPerSecond] at *
  omega

/-- Outside leap seconds, the nanoseconds since the epoch decide the instant. -/
theorem eq_of_sinceEpoch (ordinary_a : a.IsOrdinary) (ordinary_b : b.IsOrdinary)
    (same : a.sinceEpoch = b.sinceEpoch) : a = b := by
  obtain ⟨second, nano⟩ := a
  obtain ⟨second', nano'⟩ := b
  simp only [IsOrdinary, sinceEpoch, nanosPerSecond] at *
  congr 1 <;> omega

theorem later_of_ordinary (ordinary : t.IsOrdinary) (nanos : Nat) :
    (t.later nanos).IsOrdinary ∧ (t.later nanos).sinceEpoch = t.sinceEpoch + nanos := by
  have moves : ¬ t.Lingers nanos := fun lingers => absurd lingers.1 (Nat.not_le.mpr ordinary)
  have since : t.sinceSecond = t.nano := if_neg (Nat.not_le.mpr ordinary)
  rw [later_of_not_lingers moves, since]
  refine ⟨Nat.mod_lt _ (by decide), ?_⟩
  simp only [sinceEpoch, nanosPerSecond]
  omega

theorem IsOrdinary.nano_lt (ordinary : t.IsOrdinary) : t.nano < 2 * nanosPerSecond :=
  Nat.lt_trans ordinary (by decide)

/-- Outside leap seconds, adding to an instant adds to its nanoseconds since the epoch. -/
theorem add?_of_ordinary (ordinary : t.IsOrdinary) (found : t.add? nanos = some a) :
    a.IsOrdinary ∧ a.sinceEpoch = t.sinceEpoch + nanos := by
  rw [add?_eq_later ordinary.nano_lt] at found
  split at found
  · obtain rfl := Option.some.inj found
    exact later_of_ordinary ordinary nanos
  · cases found

/-- Outside leap seconds, an instant to which nothing more can be added would lie behind the latest one. -/
theorem latest_lt_of_add?_eq_none (exists_t : t.Representable) (ordinary : t.IsOrdinary)
    (overflows : t.add? nanos = none) : latest.sinceEpoch < t.sinceEpoch + nanos := by
  obtain ⟨ordinary_later, sum⟩ := later_of_ordinary ordinary nanos
  rw [← sum, ← lt_iff_sinceEpoch latest_ordinary ordinary_later, lt_iff]
  -- The later instant lies in no year that exists, but it does not lie before the first one.
  have start := t.second_le_later nanos
  have first := exists_t.first
  rw [add?_eq_later ordinary.nano_lt] at overflows
  simp only [inRange, Bool.and_eq_true, decide_eq_true_eq, ite_eq_right_iff, reduceCtorEq, imp_false,
    not_and, Int.not_le] at overflows
  exact .inl (overflows (Int.le_trans first start))

end Reindexing.Instant
