import Mathlib.Algebra.Order.Field.Power
import Mathlib.Algebra.Order.Field.Rat
import Mathlib.Tactic.Ring
import Mathlib.Tactic.Linarith
import Mathlib.Tactic.NormNum
import Reindexing.Decimal.Layout

/-!
# Doubles from decimals

A decimal is read as a word times a power of ten, both rounded to doubles, and their
product is rounded again. A whole number that is shifted to the mantissa of a double
gains at most one part in `2 ^ 53`, so the product is at most three such parts too
large, and no infinity if that is below `2 ^ 1024`. The shortest decimal of a double
is no greater than the midpoint to the next one, which leaves enough room for all
doubles but the three largest.
-/
namespace Reindexing.Decimal

open Float.Model Float.Model.UnpackedFloat

/-! ### Mantissas -/

/-- What is left of a whole number after so many shifts, with the bits for rounding. -/
def shifted (n k : Nat) : ExtendedMantissa := ExtendedMantissa.mk n false false >>> k

theorem mantissa_shiftRight (em : ExtendedMantissa) (k : Nat) : (em >>> k).mantissa = em.mantissa / 2 ^ k := by
  induction k with
  | zero => exact (Nat.div_one _).symm
  | succ k ih =>
    change (em >>> k).mantissa / 2 = _
    rw [ih, Nat.div_div_eq_div_mul, Nat.pow_succ]

theorem roundBit_shiftRight (em : ExtendedMantissa) (k : Nat) :
    (em >>> (k + 1)).roundBit = (em.mantissa / 2 ^ k % 2 != 0) := by
  change ((em >>> k).mantissa % 2 != 0) = _
  rw [mantissa_shiftRight]

theorem roundedMantissa_le (em : ExtendedMantissa) :
    em.mantissa ≤ em.roundedMantissa ∧ em.roundedMantissa ≤ em.mantissa + em.roundBit.toNat := by
  obtain ⟨m, _ | _, _ | _⟩ := em
  all_goals
    simp only [ExtendedMantissa.roundedMantissa, ExtendedMantissa.accuracy, Accuracy.roundToNearestEven,
      Bool.toNat_true, Bool.toNat_false]
    omega

/-- Rounding goes up by one at most, and only from the half on. -/
theorem rounded_shifted (n k : Nat) :
    n / 2 ^ k ≤ (shifted n k).roundedMantissa ∧ (shifted n k).roundedMantissa ≤ n / 2 ^ k + 1 ∧
      2 * ((shifted n k).roundedMantissa * 2 ^ k) ≤ 2 * n + 2 ^ k := by
  obtain ⟨lower, upper⟩ := roundedMantissa_le (shifted n k)
  have mantissa : (shifted n k).mantissa = n / 2 ^ k := mantissa_shiftRight _ k
  rw [mantissa] at lower upper
  refine ⟨lower, Nat.le_trans upper (Nat.add_le_add_left (Bool.toNat_le _) _), ?_⟩
  have parts : n / 2 ^ k * 2 ^ k + n % 2 ^ k = n := Nat.div_add_mod' n (2 ^ k)
  have scaled := Nat.mul_le_mul_right (2 ^ k) upper
  rw [Nat.add_mul] at scaled
  cases bit : (shifted n k).roundBit with
  | false =>
    rw [bit, Bool.toNat_false, Nat.zero_mul] at scaled
    omega
  | true =>
    rw [bit, Bool.toNat_true, Nat.one_mul] at scaled
    cases k with
    | zero => exact absurd bit Bool.false_ne_true
    | succ k =>
      have odd := (roundBit_shiftRight ⟨n, false, false⟩ k).symm.trans bit
      have one : n / 2 ^ k % 2 = 1 := Nat.mod_two_ne_zero.mp (bne_iff_ne.mp odd)
      have half : 2 ^ k ≤ n % 2 ^ (k + 1) := by
        rw [Nat.pow_succ, Nat.mod_mul, one]
        omega
      rw [Nat.pow_succ] at *
      omega

/-! ### Rounding of positive numbers -/

/-- The factor by which rounding to a double may enlarge a number. -/
def grain : Rat := 1 + 1 / 2 ^ 53

/-- Numbers that stay below `2 ^ 1024` after so many roundings. -/
theorem mul_grain_lt {n : Nat} (roundings : Nat)
    (small : n * (2 ^ 53 + 1) ^ roundings < 2 ^ 1024 * (2 ^ 53) ^ roundings) :
    (n : Rat) * grain ^ roundings < 2 ^ 1024 := by
  have grains : grain = (2 ^ 53 + 1) / 2 ^ 53 := by norm_num [grain]
  rw [grains, div_pow, mul_div_assoc', div_lt_iff₀ (by positivity)]
  exact_mod_cast small

/-- A double of full precision from one to `most`. -/
def IsWithin (most : Rat) (u : Float.Model.UnpackedFloat) : Prop :=
  ∃ (m : Nat) (e : Int) (positive : 0 < m), u = .finite .positive m e positive ∧
    2 ^ 52 ≤ m ∧ m < 2 ^ 53 ∧ -52 ≤ e ∧ (m : Rat) * 2 ^ e ≤ most

variable {n k : Nat} {e : Int} {u v : Float.Model.UnpackedFloat} {most other : Rat}

theorem IsWithin.mono (within : IsWithin most u) (le : most ≤ other) : IsWithin other u := by
  obtain ⟨m, e, positive, rfl, lower, upper, exponent, small⟩ := within
  exact ⟨m, e, positive, rfl, lower, upper, exponent, small.trans le⟩

theorem log2_of_bounds (lower : 2 ^ (52 + k) ≤ n) (upper : n < 2 ^ (53 + k)) : n.log2 = 52 + k :=
  (Nat.log2_eq_iff (Nat.ne_of_gt (Nat.lt_of_lt_of_le (Nat.two_pow_pos _) lower))).mpr
    ⟨lower, by rwa [show 52 + k + 1 = 53 + k by omega]⟩

/-- The exponent at which a number has the bits of a mantissa, unless it is too small. -/
theorem targetExponent_totalExponent (n : Nat) (e : Int) :
    Format.binary64.targetExponent (totalExponent n e) = max (n.log2 + e - 52) (-1074) := by
  have bits : Format.binary64.mantissaBits = 53 := rfl
  have least : Format.binary64.minExponent = -1074 := rfl
  rw [Format.targetExponent, totalExponent, bits, least]
  omega

/-- A number is shifted until the bits of a mantissa are left. -/
theorem shift_to_mantissa (lower : 2 ^ (52 + k) ≤ n) (upper : n < 2 ^ (53 + k)) (above : -1074 ≤ e + k) :
    shiftToTargetExponent .binary64 n e .exact = (shifted n k, e + k) := by
  have amount : (Format.binary64.targetExponent (totalExponent n e) - e).toNat = k := by
    rw [targetExponent_totalExponent, log2_of_bounds lower upper]
    omega
  simp only [shiftToTargetExponent, shiftToExponent, amount, ExtendedMantissa.ofMantissaAndAccuracy, shifted]

/-- The shifts before and after rounding tell the double. -/
theorem round_of_shifts {s : Sign} {em final : ExtendedMantissa} {first last : Int}
    (before : shiftToTargetExponent .binary64 n e .exact = (em, first))
    (after : shiftToTargetExponent .binary64 em.roundedMantissa first .exact = (final, last))
    (positive : 0 < final.mantissa) :
    roundWithAccuracy .binary64 s n e .exact = .finite s final.mantissa last positive := by
  rw [roundWithAccuracy, before]
  dsimp only
  rw [after]
  exact dif_neg (Nat.ne_of_gt positive)

theorem two_zpow_add (e : Int) (k : Nat) : (2 : Rat) ^ (e + k) = 2 ^ k * 2 ^ e := by
  rw [zpow_add₀ (by norm_num), zpow_natCast, mul_comm]

theorem rounded_between (lower : 2 ^ (52 + k) ≤ n) (upper : n < 2 ^ (53 + k)) :
    2 ^ 52 ≤ (shifted n k).roundedMantissa ∧ (shifted n k).roundedMantissa ≤ 2 ^ 53 := by
  obtain ⟨floor, ceiling, _⟩ := rounded_shifted n k
  have pow : 0 < 2 ^ k := Nat.two_pow_pos k
  constructor
  · refine Nat.le_trans ((Nat.le_div_iff_mul_le pow).mpr ?_) floor
    rwa [← Nat.pow_add]
  · refine Nat.le_trans ceiling (Nat.succ_le_of_lt ((Nat.div_lt_iff_lt_mul pow).mpr ?_))
    rwa [← Nat.pow_add]

/-- The half of a unit that is added is at most one part of the number. -/
theorem rounded_le (lower : 2 ^ (52 + k) ≤ n) (e : Int) :
    ((shifted n k).roundedMantissa : Rat) * 2 ^ (e + k) ≤ n * 2 ^ e * grain := by
  obtain ⟨_, _, half⟩ := rounded_shifted n k
  have enlarged : (shifted n k).roundedMantissa * 2 ^ k * 2 ^ 53 ≤ n * (2 ^ 53 + 1) := by
    rw [Nat.pow_add] at lower
    omega
  have cast : ((shifted n k).roundedMantissa : Rat) * 2 ^ k * 2 ^ 53 ≤ n * (2 ^ 53 + 1) := by
    exact_mod_cast enlarged
  have bound : ((shifted n k).roundedMantissa : Rat) * 2 ^ k ≤ n * grain := by
    rw [grain]
    linarith
  calc ((shifted n k).roundedMantissa : Rat) * 2 ^ (e + k)
      = (shifted n k).roundedMantissa * 2 ^ k * 2 ^ e := by rw [two_zpow_add, mul_assoc]
    _ ≤ n * grain * 2 ^ e := mul_le_mul_of_nonneg_right bound (zpow_pos (by norm_num) e).le
    _ = n * 2 ^ e * grain := by ring

/-- A mantissa that was rounded up to the next power of two is shifted once more, without a loss. -/
theorem exists_last_shift {r : Nat} (least : 2 ^ 52 ≤ r) (greatest : r ≤ 2 ^ 53) :
    ∃ j, 2 ^ (52 + j) ≤ r ∧ r < 2 ^ (53 + j) ∧ 2 ^ j ∣ r := by
  rcases Nat.lt_or_eq_of_le greatest with below | rfl
  · exact ⟨0, least, below, Nat.one_dvd _⟩
  · exact ⟨1, by decide, by decide, by decide⟩

/-- Rounding enlarges a number by the grain at most. -/
theorem isWithin_round (lower : 2 ^ (52 + k) ≤ n) (upper : n < 2 ^ (53 + k)) (above : -52 ≤ e + k) :
    IsWithin (n * 2 ^ e * grain) (roundWithAccuracy .binary64 .positive n e .exact) := by
  obtain ⟨least, greatest⟩ := rounded_between lower upper
  obtain ⟨j, lower_j, upper_j, divides⟩ := exists_last_shift least greatest
  have before := shift_to_mantissa lower upper (e := e) (by omega)
  have after := shift_to_mantissa lower_j upper_j (e := e + k) (by omega)
  have mantissa : (shifted (shifted n k).roundedMantissa j).mantissa = (shifted n k).roundedMantissa / 2 ^ j :=
    mantissa_shiftRight _ j
  have whole : 2 ^ 52 ≤ (shifted n k).roundedMantissa / 2 ^ j :=
    (Nat.le_div_iff_mul_le (Nat.two_pow_pos j)).mpr (by rwa [← Nat.pow_add])
  have short : (shifted n k).roundedMantissa / 2 ^ j < 2 ^ 53 :=
    (Nat.div_lt_iff_lt_mul (Nat.two_pow_pos j)).mpr (by rwa [← Nat.pow_add])
  have positive : 0 < (shifted (shifted n k).roundedMantissa j).mantissa := by omega
  refine ⟨_, _, positive, round_of_shifts before after positive, ?_, ?_, by omega, ?_⟩
  · rwa [mantissa]
  · rwa [mantissa]
  · have unshifted : (((shifted n k).roundedMantissa / 2 ^ j : Nat) : Rat) * 2 ^ j =
        (shifted n k).roundedMantissa := by
      exact_mod_cast Nat.div_mul_cancel divides
    rw [mantissa, two_zpow_add, ← mul_assoc, unshifted]
    exact rounded_le lower e

/-! ### Doubles in their bits -/

/-- The first bit is that of the sign. -/
theorem unpackSign_packed {exponent : BitVec 11} {mantissa : BitVec 52} :
    unpackSign (packComponents .binary64 .positive exponent mantissa) = 0#1 := by
  have top : (0#1 ++ exponent ++ mantissa).extractLsb' 63 1 = 0#1 := by
    ext i first
    obtain rfl : i = 0 := by omega
    rw [BitVec.getElem_extractLsb', BitVec.getLsbD_append, BitVec.getLsbD_append]
    simp
  exact top

theorem IsWithin.exponent_le (within : IsWithin most u) (small : most < 2 ^ 1024) :
    ∃ (m : Nat) (e : Int) (positive : 0 < m), u = .finite .positive m e positive ∧
      2 ^ 52 ≤ m ∧ m < 2 ^ 53 ∧ -52 ≤ e ∧ e ≤ 971 := by
  obtain ⟨m, e, positive, rfl, lower, upper, above, value⟩ := within
  refine ⟨m, e, positive, rfl, lower, upper, above, ?_⟩
  have least : (2 : Rat) ^ (52 : Int) ≤ m := by exact_mod_cast lower
  have power : (2 : Rat) ^ (52 + e) < 2 ^ (1024 : Int) :=
    calc (2 : Rat) ^ (52 + e) = 2 ^ (52 : Int) * 2 ^ e := zpow_add₀ (by norm_num) _ _
      _ ≤ m * 2 ^ e := mul_le_mul_of_nonneg_right least (zpow_pos (by norm_num) e).le
      _ ≤ most := value
      _ < 2 ^ (1024 : Int) := by exact_mod_cast small
  have := (zpow_lt_zpow_iff_right₀ (by norm_num : (1 : Rat) < 2)).mp power
  omega

theorem pack_normal {m : Nat} (positive : 0 < m) (log : m.log2 = 52) (least : -52 ≤ e) (greatest : e ≤ 971) :
    UnpackedFloat.pack .binary64 (.finite .positive m e positive) =
      packComponents .binary64 .positive (BitVec.ofNat 11 (e + 1075).toNat) (BitVec.ofNat 52 m) := by
  have biased : (e + (1023 : Nat) + (52 : Nat)).toNat = (e + 1075).toNat := by omega
  change (if 2 ^ 11 ≤ (e + (1023 : Nat) + (52 : Nat)).toNat + 1 then _ else if m.log2 + 1 = 53 then
    packComponents .binary64 .positive (BitVec.ofNat 11 (e + (1023 : Nat) + (52 : Nat)).toNat) (BitVec.ofNat 52 m)
    else _) = _
  rw [biased, log, if_neg (by omega), if_pos (by rfl)]

/-- The leading one of a mantissa is not stored. -/
theorem toNat_leading_append (mantissa : BitVec 52) : (1#1 ++ mantissa).toNat = 2 ^ 52 + mantissa.toNat := by
  rw [BitVec.toNat_append, ← Nat.shiftLeft_add_eq_or_of_lt mantissa.isLt]
  rfl

theorem unpack_normal {exponent : BitVec 11} {mantissa : BitVec 52} (finite : exponent ≠ -1#11)
    (normal : exponent ≠ 0#11) :
    UnpackedFloat.unpack .binary64 (packComponents .binary64 .positive exponent mantissa) =
      .finite .positive (1#1 ++ mantissa).toNat (exponent.toNat - (1023 + 52))
        (toNat_leading_append mantissa ▸ Nat.add_pos_left (by decide) _) := by
  have read (b : BitVec Format.binary64.numBits) : UnpackedFloat.unpack .binary64 b =
      if unpackExponent b = -1#11 then _ else if unpackExponent b = 0#11 then _ else
        .finite (Sign.ofBitVec (unpackSign b)) (1#1 ++ unpackMantissa b).toNat
          ((unpackExponent b).toNat - (1023 + 52)) _ := rfl
  rw [read, unpackExponent_packComponents, if_neg finite, if_neg normal, unpackSign_packed,
    UnpackedFloat.finite.injEq, unpackMantissa_packComponents]
  exact ⟨rfl, rfl, rfl⟩

/-- A double below `2 ^ 1024` is kept in its bits. -/
theorem IsWithin.unpack_pack (within : IsWithin most u) (small : most < 2 ^ 1024) :
    (Float.Model.pack u).unpack = u := by
  obtain ⟨m, e, positive, rfl, lower, upper, above, below⟩ := within.exponent_le small
  have biased : (BitVec.ofNat 11 (e + 1075).toNat).toNat = (e + 1075).toNat := by
    rw [BitVec.toNat_ofNat, Nat.mod_eq_of_lt (by omega)]
  have finite : BitVec.ofNat 11 (e + 1075).toNat ≠ -1#11 := fun same => by
    have greatest := biased.symm.trans (congrArg BitVec.toNat same)
    simp only [BitVec.toNat_neg, BitVec.toNat_ofNat] at greatest
    omega
  have normal : BitVec.ofNat 11 (e + 1075).toNat ≠ 0#11 := fun same => by
    have least := biased.symm.trans (congrArg BitVec.toNat same)
    simp only [BitVec.toNat_ofNat] at least
    omega
  change UnpackedFloat.unpack .binary64 (UnpackedFloat.pack .binary64 (.finite .positive m e positive)) = _
  rw [pack_normal positive (log2_of_bounds (k := 0) lower upper) above below, unpack_normal finite normal,
    UnpackedFloat.finite.injEq, toNat_leading_append, BitVec.toNat_ofNat, biased]
  exact ⟨rfl, by omega, by omega⟩

/-! ### Words, powers of ten and their products -/

theorem IsWithin.mul (left : IsWithin most u) (right : IsWithin other v) :
    IsWithin (most * other * grain) (UnpackedFloat.mul .binary64 u v) := by
  obtain ⟨m, e, positive, rfl, lower, upper, above, value⟩ := left
  obtain ⟨n, f, positive_n, rfl, lower_n, upper_n, above_n, value_n⟩ := right
  have least : 2 ^ 104 ≤ m * n := Nat.le_trans (by decide) (Nat.mul_le_mul lower lower_n)
  have greatest : m * n < 2 ^ 106 := Nat.lt_of_lt_of_le (Nat.mul_lt_mul'' upper upper_n) (by decide)
  obtain ⟨k, above_k, lower_k, upper_k⟩ : ∃ k, 52 ≤ k ∧ 2 ^ (52 + k) ≤ m * n ∧ m * n < 2 ^ (53 + k) := by
    rcases Nat.lt_or_ge (m * n) (2 ^ 105) with small | large
    · exact ⟨52, by decide, least, small⟩
    · exact ⟨53, by decide, large, greatest⟩
  have rounded := isWithin_round lower_k upper_k (e := e + f) (by omega)
  refine IsWithin.mono rounded ?_
  have nonneg (i : Int) : (0 : Rat) ≤ 2 ^ i := (zpow_pos (by norm_num) i).le
  have product : (m * 2 ^ e : Rat) * (n * 2 ^ f) ≤ most * other :=
    mul_le_mul value value_n (mul_nonneg n.cast_nonneg (nonneg f))
      ((mul_nonneg m.cast_nonneg (nonneg e)).trans value)
  refine mul_le_mul_of_nonneg_right (le_trans (le_of_eq ?_) product) (by norm_num [grain])
  rw [zpow_add₀ (by norm_num), Nat.cast_mul]
  ring

theorem exists_width (large : 2 ^ 52 ≤ n) : ∃ k, 2 ^ (52 + k) ≤ n ∧ n < 2 ^ (53 + k) := by
  have filled : n ≠ 0 := by omega
  have log : 52 ≤ n.log2 := (Nat.le_log2 filled).mpr large
  refine ⟨n.log2 - 52, ?_, ?_⟩
  · rw [show 52 + (n.log2 - 52) = n.log2 by omega]
    exact Nat.log2_self_le filled
  · rw [show 53 + (n.log2 - 52) = n.log2 + 1 by omega]
    exact Nat.lt_log2_self

/-- A short word is widened to the bits of a mantissa before it is rounded. -/
theorem ofUInt64_eq_round {w : UInt64} (positive : 0 < w.toNat) :
    UnpackedFloat.ofUInt64 .binary64 w =
      roundWithAccuracy .binary64 .positive (w.toNat * 2 ^ (52 - w.toNat.log2))
        (-(52 - w.toNat.log2 : Nat)) .exact := by
  have above : compare (w.toNat : Int) 0 = .gt := compare_gt_iff_gt.mpr (Int.natCast_pos.mpr positive)
  have widened : (-Format.binary64.targetExponent (totalExponent w.toNat 0)).toNat = 52 - w.toNat.log2 := by
    rw [targetExponent_totalExponent]
    omega
  simp only [UnpackedFloat.ofUInt64, UnpackedFloat.ofNat, UnpackedFloat.ofInt, UnpackedFloat.normalize, above,
    Int.toNat_natCast, UnpackedFloat.round, decreaseExponent, Int.zero_sub, widened, Nat.shiftLeft_eq]

theorem isWithin_ofUInt64 {w : UInt64} (positive : 0 < w.toNat) :
    IsWithin (w.toNat * grain) (UnpackedFloat.ofUInt64 .binary64 w) := by
  have widened : 2 ^ (52 + (w.toNat.log2 - 52)) = 2 ^ w.toNat.log2 * 2 ^ (52 - w.toNat.log2) := by
    rw [← Nat.pow_add, show 52 + (w.toNat.log2 - 52) = w.toNat.log2 + (52 - w.toNat.log2) by omega]
  have lower : 2 ^ (52 + (w.toNat.log2 - 52)) ≤ w.toNat * 2 ^ (52 - w.toNat.log2) := by
    rw [widened]
    exact Nat.mul_le_mul_right _ (Nat.log2_self_le (Nat.ne_of_gt positive))
  have upper : w.toNat * 2 ^ (52 - w.toNat.log2) < 2 ^ (53 + (w.toNat.log2 - 52)) := by
    calc w.toNat * 2 ^ (52 - w.toNat.log2)
        < 2 ^ (w.toNat.log2 + 1) * 2 ^ (52 - w.toNat.log2) :=
          Nat.mul_lt_mul_of_pos_right Nat.lt_log2_self (Nat.two_pow_pos _)
      _ = 2 ^ (53 + (w.toNat.log2 - 52)) := by
          rw [Nat.pow_succ, Nat.mul_right_comm, ← widened, ← Nat.pow_succ, ← Nat.succ_add]
  rw [ofUInt64_eq_round positive]
  refine (isWithin_round lower upper (by omega)).mono (le_of_eq ?_)
  -- The exponent makes up for the widening.
  have unit : ((2 ^ (52 - w.toNat.log2) : Nat) : Rat) * 2 ^ (-(52 - w.toNat.log2 : Nat) : Int) = 1 := by
    rw [zpow_neg, zpow_natCast, Nat.cast_pow, Nat.cast_ofNat]
    exact mul_inv_cancel₀ (pow_ne_zero _ two_ne_zero)
  rw [Nat.cast_mul, mul_assoc (w.toNat : Rat), unit, mul_one]

theorem isWithin_ofScientific {s : Nat} (small : s ≤ 308) :
    IsWithin (10 ^ s * grain) (UnpackedFloat.ofScientific .binary64 1 s) := by
  have product : UnpackedFloat.ofScientific .binary64 1 s =
      roundWithAccuracy .binary64 .positive (2 ^ 53 * 10 ^ s) (-53) .exact := by
    have below : ¬ (s : Int) > 2 ^ 11 := by omega
    have above : ¬ (s : Int) < -(2 ^ 11 + (Nat.log2 1 : Nat)) := by omega
    rw [UnpackedFloat.ofScientific, dif_neg Nat.one_ne_zero, if_neg below, if_neg above, if_pos (by omega)]
    rfl
  have large : 2 ^ 53 ≤ 2 ^ 53 * 10 ^ s := Nat.le_mul_of_pos_right _ (Nat.pow_pos (by decide))
  obtain ⟨k, lower, upper⟩ := exists_width (Nat.le_trans (by decide) large)
  have shifts : 1 ≤ k := by
    have := (Nat.pow_lt_pow_iff_right (by decide)).mp (Nat.lt_of_le_of_lt large upper)
    omega
  rw [product]
  refine (isWithin_round lower upper (by omega)).mono (le_of_eq ?_)
  have unit : (2 : Rat) ^ 53 * 2 ^ (-53 : Int) = 1 := by norm_num
  calc ((2 ^ 53 * 10 ^ s : Nat) : Rat) * 2 ^ (-53 : Int) * grain
      = 2 ^ 53 * 2 ^ (-53 : Int) * (10 ^ s * grain) := by
        push_cast
        ring
    _ = 10 ^ s * grain := by rw [unit, one_mul]

theorem unpack_ofScientific {s : Nat} (small : s ≤ 308) :
    (Float.ofScientific 1 false s).toModel.unpack = UnpackedFloat.ofScientific .binary64 1 s := by
  have bound : (10 : Rat) ^ s * grain < 2 ^ 1024 := by
    have powers : ∀ s : Fin 309, 10 ^ (s : Nat) * (2 ^ 53 + 1) ^ 1 < 2 ^ 1024 * (2 ^ 53) ^ 1 := by decide +kernel
    have below := mul_grain_lt 1 (powers ⟨s, by omega⟩)
    rwa [pow_one, Nat.cast_pow] at below
  have kept := (isWithin_ofScientific small).unpack_pack bound
  rcases Nat.lt_or_ge 22 s with large | few
  · rw [Float.ofScientific, dif_neg (by omega)]
    exact kept
  · -- The powers up to `10 ^ 22` are taken from a table.
    have table : ∀ s : Fin 23, (Float.ofScientific 1 false s).toModel.toBits =
        (Float.Model.pack (UnpackedFloat.ofScientific .binary64 1 (s : Nat))).toBits := by
      decide +kernel
    have bits := table ⟨s, by omega⟩
    exact (congrArg (fun bits : UInt64 => UnpackedFloat.unpack .binary64 bits.toBitVec) bits).trans kept

theorem unpack_toFloat {w : UInt64} (positive : 0 < w.toNat) :
    w.toFloat.toModel.unpack = UnpackedFloat.ofUInt64 .binary64 w := by
  refine (isWithin_ofUInt64 positive).unpack_pack ?_
  have small := mul_grain_lt 1 (Nat.lt_of_le_of_lt (Nat.mul_le_mul_right _ w.toNat_lt.le) (by decide +kernel))
  rwa [pow_one] at small

/-- The greatest midpoint between doubles that three roundings do not bring to `2 ^ 1024`. -/
@[irreducible] def roundingLimit : Nat := (2 ^ 54 - 7) * 2 ^ 970

/-- A word times a power of ten is a double if it is far enough below the largest one. -/
theorem isInf_mul_ofScientific {w s : Nat} (word : w < 2 ^ 64) (small : s ≤ 308)
    (bound : w * 10 ^ s ≤ roundingLimit) :
    ((UInt64.ofNat w).toFloat * Float.ofScientific 1 false s).isInf = false := by
  have power := isWithin_ofScientific small
  rw [← unpack_ofScientific small] at power
  have held : (UInt64.ofNat w).toNat = w := UInt64.toNat_ofNat_of_lt word
  change (Float.Model.pack (UnpackedFloat.mul .binary64 (UInt64.ofNat w).toFloat.toModel.unpack
    (Float.ofScientific 1 false s).toModel.unpack)).unpack.isInf = false
  rcases Nat.eq_zero_or_pos w with rfl | positive
  · obtain ⟨m, e, _, double, _⟩ := power
    have zero : (Float.Model.pack (.zero .positive)).unpack.isInf = false := by decide +kernel
    rw [double, show (UInt64.ofNat 0).toFloat.toModel.unpack = .zero .positive from rfl]
    exact zero
  · have number := isWithin_ofUInt64 (w := UInt64.ofNat w) (by rwa [held])
    rw [← unpack_toFloat (by rwa [held]), held] at number
    have product := number.mul power
    have below : (w * grain * (10 ^ s * grain) * grain : Rat) < 2 ^ 1024 := by
      have roundings := mul_grain_lt 3 (Nat.lt_of_le_of_lt (Nat.mul_le_mul_right _ bound) (by decide +kernel))
      calc (w * grain * (10 ^ s * grain) * grain : Rat) = (w * 10 ^ s : Nat) * grain ^ 3 := by
            push_cast
            ring
        _ < 2 ^ 1024 := roundings
    obtain ⟨m, e, _, double, _⟩ := product
    rw [(number.mul power).unpack_pack below, double]
    rfl

/-! ### Shortest decimals -/

/-- A double that is far enough below the largest one, so that decimals near it can be rounded. -/
structure Binary.IsBelowTop (b : Binary) : Prop where
  exponent : b.exponent ≤ 971
  mantissa : b.mantissa < if b.exponent = 971 then 2 ^ 53 - 3 else 2 ^ 53

namespace Binary

variable {b : Binary} {c n : Nat} {k : Int}

/-- Halfway to the next double, the limit is not exceeded. -/
theorem IsBelowTop.high_le (below : b.IsBelowTop) :
    (Ratio.scaleTwo (4 * b.mantissa + 2) (b.exponent - 2)).num ≤
      roundingLimit * (Ratio.scaleTwo (4 * b.mantissa + 2) (b.exponent - 2)).den := by
  obtain ⟨exponent, mantissa⟩ := below
  cases shift : b.exponent - 2 with
  | ofNat k =>
    rw [Int.ofNat_eq_natCast] at shift
    change (4 * b.mantissa + 2) * 2 ^ k ≤ roundingLimit * 1
    split at mantissa
    · have high : 4 * b.mantissa + 2 ≤ 2 ^ 55 - 14 := by omega
      have power : k ≤ 969 := by omega
      exact Nat.le_trans (Nat.mul_le_mul high (Nat.pow_le_pow_right (by decide) power)) (by decide +kernel)
    · have high : 4 * b.mantissa + 2 ≤ 2 ^ 55 - 2 := by omega
      have power : k ≤ 968 := by omega
      exact Nat.le_trans (Nat.mul_le_mul high (Nat.pow_le_pow_right (by decide) power)) (by decide +kernel)
  | negSucc k =>
    change 4 * b.mantissa + 2 ≤ roundingLimit * 2 ^ (k + 1)
    have small : 4 * b.mantissa + 2 ≤ roundingLimit := by
      have short : 4 * b.mantissa + 2 ≤ 2 ^ 55 := by
        split at mantissa <;> omega
      exact Nat.le_trans short (by decide +kernel)
    exact Nat.le_trans small (Nat.le_mul_of_pos_right _ (Nat.two_pow_pos _))

theorem den_scaleTwo_pos (n : Nat) (e : Int) : 0 < (Ratio.scaleTwo n e).den := by
  cases e with
  | ofNat => exact Nat.one_pos
  | negSucc k => exact Nat.two_pow_pos (k + 1)

theorem le_of_atLeast {r : Ratio} {strict : Bool} (fits : r.atLeast c strict = true) : c * r.den ≤ r.num := by
  unfold Ratio.atLeast at fits
  split at fits
  · exact (of_decide_eq_true fits).le
  · exact of_decide_eq_true fits

/-- What is taken from a grid is a point below the midpoint to the next double. -/
theorem le_of_gridPoint (found : gridPoint b k = some c) :
    0 < c ∧ c * ((Ratio.scaleTwo (4 * b.mantissa + 2) (b.exponent - 2)).shift k).den ≤
      ((Ratio.scaleTwo (4 * b.mantissa + 2) (b.exponent - 2)).shift k).num := by
  simp only [gridPoint] at found
  generalize (Ratio.scaleTwo (4 * b.mantissa + 2) (b.exponent - 2)).shift k = high at found ⊢
  generalize (Ratio.scaleTwo (4 * b.mantissa) (b.exponent - 2)).shift k = value at found
  generalize value.num / value.den = below at found
  -- Whichever of the two points is taken, it has been tested.
  have tested {p : Nat} {low strict : Bool} (fits : (decide (0 < p) && low && high.atLeast p strict) = true) :
      0 < p ∧ p * high.den ≤ high.num := by
    simp only [Bool.and_eq_true, decide_eq_true_eq] at fits
    exact ⟨fits.1.1, le_of_atLeast fits.2⟩
  split at found
  · cases found
  · next fits _ => exact Option.some.inj found ▸ tested fits
  · next _ fits => exact Option.some.inj found ▸ tested fits
  · next fits_below fits_above =>
    split_ifs at found
    all_goals first
      | exact Option.some.inj found ▸ tested fits_below
      | exact Option.some.inj found ▸ tested fits_above

/-- A decimal that is found on a grid stays within the limit. -/
theorem IsBelowTop.gridPoint_le (below : b.IsBelowTop) (found : gridPoint b k = some c) :
    0 < c ∧ c * 10 ^ k.toNat ≤ roundingLimit * 10 ^ (-k).toNat := by
  obtain ⟨positive, fits⟩ := le_of_gridPoint found
  refine ⟨positive, ?_⟩
  have high := below.high_le
  have divides := den_scaleTwo_pos (4 * b.mantissa + 2) (b.exponent - 2)
  generalize Ratio.scaleTwo (4 * b.mantissa + 2) (b.exponent - 2) = r at fits high divides
  refine Nat.le_of_mul_le_mul_right ?_ divides
  cases k with
  | ofNat k =>
    rw [show (-Int.ofNat k).toNat = 0 from Int.toNat_neg_natCast k]
    calc c * 10 ^ k * r.den = c * (r.den * 10 ^ k) := by ring
      _ ≤ r.num := fits
      _ ≤ roundingLimit * r.den := high
      _ = roundingLimit * 10 ^ 0 * r.den := by rw [Nat.pow_zero, Nat.mul_one]
  | negSucc k =>
    calc c * 10 ^ 0 * r.den = c * r.den := by rw [Nat.pow_zero, Nat.mul_one]
      _ ≤ r.num * 10 ^ (k + 1) := fits
      _ ≤ roundingLimit * r.den * 10 ^ (k + 1) := Nat.mul_le_mul_right _ high
      _ = roundingLimit * 10 ^ (k + 1) * r.den := by ring

theorem searchGrid_cases (b : Binary) (k : Int) (fuel : Nat) :
    searchGrid b k fuel = (b.mantissa, 0) ∨ ∃ c i, searchGrid b k fuel = (c, i) ∧ gridPoint b i = some c := by
  induction fuel generalizing k with
  | zero => exact .inl rfl
  | succ fuel ih =>
    cases found : gridPoint b k with
    | none => simpa only [searchGrid, found] using ih (k - 1)
    | some c => exact .inr ⟨c, k, by simp only [searchGrid, found], found⟩

/-- The shortest decimal of a double is not zero, and stays within the limit. -/
theorem IsBelowTop.shortest_le (below : b.IsBelowTop) (filled : b.mantissa ≠ 0) (written : shortest b = (n, k)) :
    0 < n ∧ n * 10 ^ k.toNat ≤ roundingLimit * 10 ^ (-k).toNat := by
  rcases searchGrid_cases b (leadingExponent (Ratio.scaleTwo b.mantissa b.exponent) + 1) 20 with
    exact_ | ⟨c, i, search, found⟩
  · obtain ⟨rfl, rfl⟩ := Prod.mk.inj (written.symm.trans exact_)
    have short : b.mantissa ≤ 2 ^ 53 := by
      have := below.mantissa
      split at this <;> omega
    have small : b.mantissa ≤ roundingLimit := Nat.le_trans short (by decide +kernel)
    exact ⟨Nat.pos_of_ne_zero filled, Nat.mul_le_mul_right 1 small⟩
  · obtain ⟨rfl, rfl⟩ := Prod.mk.inj (written.symm.trans search)
    exact below.gridPoint_le found

end Binary

/-! ### Written doubles -/

theorem toList_write_zero {format : Format} {bits : UInt64} {b : Binary} (finite : classify bits = .finite b)
    (zero : b.mantissa = 0) : (write format bits).toList =
      (if b.negative then ['-'] else []) ++ '0' :: if format.keepsFraction then ['.', '0'] else [] := by
  rw [write]
  split
  · next same => cases finite.symm.trans same
  · next same => cases finite.symm.trans same
  · next c same =>
    obtain rfl := Class.finite.inj (finite.symm.trans same)
    extract_lets sign
    rw [if_pos zero, String.toList_ofList]

/-- Whatever is written positionally has no more digits than the format allows. -/
theorem toList_write_decimal (format : Format) {bits : UInt64} {b : Binary} {n : Nat} {k : Int}
    (finite : classify bits = .finite b) (filled : b.mantissa ≠ 0) (decimal : shortest b = (n, k)) :
    ((∀ greatest, format.greatest = some greatest → k + (digits n).length - 1 ≤ greatest) ∧
      (write format bits).toList = (if b.negative then ['-'] else []) ++ positional format (digits n) k) ∨
    (write format bits).toList =
      (if b.negative then ['-'] else []) ++ scientific format (digits n) (k + (digits n).length - 1) := by
  rw [write]
  split
  · next same => cases finite.symm.trans same
  · next same => cases finite.symm.trans same
  · next c same =>
    obtain rfl := Class.finite.inj (finite.symm.trans same)
    extract_lets sign
    rw [if_neg filled, decimal]
    cases fixed : (format.least.all (fun least => decide (least ≤ k + (digits n).length - 1)) &&
        format.greatest.all (fun greatest => decide (k + (digits n).length - 1 ≤ greatest))) with
    | false =>
      rw [String.toList_ofList]
      exact .inr (by simp only [fixed, if_neg Bool.false_ne_true, sign])
    | true =>
      rw [String.toList_ofList]
      refine .inl ⟨fun greatest same => ?_, by simp only [fixed, if_true, sign]⟩
      rw [same, Bool.and_eq_true] at fixed
      exact of_decide_eq_true fixed.2

end Reindexing.Decimal
