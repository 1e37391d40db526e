import Mathlib.Algebra.Group.Nat.Defs
import Mathlib.Data.List.Induction
import Mathlib.Tactic.ByContra
import Reindexing.Decimal.Digits

/-!
# Digits read back

The digits of a whole number, with or without zeros in front, have the number as
their value, and the run of digits at the front of a text ends where they end.
-/
namespace Reindexing.Decimal

/-- The digits of a numeral are the characters from `0` to `9`. -/
theorem isDigit_iff {c : Char} : isDigit c = true ↔ 48 ≤ c.toNat ∧ c.toNat ≤ 57 := by
  simp only [isDigit, Bool.and_eq_true, decide_eq_true_eq, Char.le_def, UInt32.le_iff_toNat_le]
  rfl

/-- The value of digits, as the library computes it. -/
theorem valueOf_eq (ds : List Char) : valueOf ds = Nat.ofDigitChars 10 ds 0 := rfl

theorem isDigit_of_mem_digits {n : Nat} {c : Char} (member : c ∈ digits n) : isDigit c = true :=
  Nat.isDigit_of_mem_toDigits (by decide) (by decide) member

theorem digits_ne_nil (n : Nat) : digits n ≠ [] := Nat.toDigits_ne_nil

@[simp] theorem valueOf_digits (n : Nat) : valueOf (digits n) = n := Nat.ofDigitChars_ten_toDigits

/-- Only zero has a leading zero. -/
theorem head?_digits {n : Nat} (positive : 0 < n) : (digits n).head? ≠ some '0' := by
  induction n using Nat.strongRecOn with
  | ind n ih =>
    rw [digits, Nat.toDigits_eq_if (by decide)]
    split
    · next small =>
      simp only [List.head?_cons, ne_eq, Option.some.injEq, Nat.digitChar_eq_zero]
      omega
    · next large =>
      have starts : (Nat.toDigits 10 (n / 10)).head?.isSome := List.isSome_head?.mpr Nat.toDigits_ne_nil
      rw [List.head?_append, Option.or_of_isSome starts]
      exact ih (n / 10) (by omega) (by omega)

theorem digitValue_lt {c : Char} (digit : isDigit c = true) : digitValue c < 10 := by
  obtain ⟨_, last⟩ := isDigit_iff.mp digit
  change c.toNat - 48 < 10
  omega

theorem valueOf_lt {ds : List Char} (all : ∀ c ∈ ds, isDigit c = true) : valueOf ds < 10 ^ ds.length := by
  induction ds using List.reverseRecOn with
  | nil => decide
  | append_singleton front c ih =>
    have before := ih fun c member => all c (List.mem_append_left _ member)
    have last := digitValue_lt (all c (List.mem_append_right _ List.mem_cons_self))
    have value : valueOf (front ++ [c]) = 10 * valueOf front + digitValue c := by simp [valueOf]
    rw [value, List.length_append, List.length_singleton, Nat.pow_succ]
    omega

/-- A positive number is at least the power of ten that its digits tell. -/
theorem pow_le_of_digits {n : Nat} (positive : 0 < n) : 10 ^ (digits n).tail.length ≤ n := by
  by_contra small
  rw [List.length_tail] at small
  rcases Nat.eq_zero_or_pos ((digits n).length - 1) with one | more
  · rw [one] at small
    exact small positive
  · have short := (Nat.length_toDigits_le_iff (by decide) more).mpr (Nat.not_le.mp small)
    change (digits n).length ≤ _ at short
    omega

/-! ### Zeros in front -/

theorem isDigit_of_mem_paddedDigits {width n : Nat} {c : Char} (member : c ∈ paddedDigits width n) :
    isDigit c = true := by
  rcases List.mem_append.mp member with zero | digit
  · rw [List.eq_of_mem_replicate zero]
    rfl
  · exact isDigit_of_mem_digits digit

@[simp] theorem valueOf_paddedDigits (width n : Nat) : valueOf (paddedDigits width n) = n := by
  have digits_eq := valueOf_digits n
  rw [valueOf_eq] at *
  simp only [paddedDigits]
  rw [Nat.ofDigitChars_append, Nat.ofDigitChars_replicate_zero, Nat.mul_zero, digits_eq]

/-- Padded digits fill the width, unless the number is too large for it. -/
theorem length_paddedDigits {width n : Nat} (positive : 0 < width) (small : n < 10 ^ width) :
    (paddedDigits width n).length = width := by
  have fits : (digits n).length ≤ width := (Nat.length_toDigits_le_iff (by decide) positive).mpr small
  simp only [paddedDigits, List.length_append, List.length_replicate]
  omega

theorem le_length_paddedDigits (width n : Nat) : width ≤ (paddedDigits width n).length := by
  simp only [paddedDigits, List.length_append, List.length_replicate]
  omega

/-! ### The run of digits at the front -/

/-- What follows does not continue a run of digits. -/
def EndsDigits (rest : List Char) : Prop := ∀ c ∈ rest.head?, isDigit c = false

theorem endsDigits_cons {c : Char} {rest : List Char} (other : isDigit c = false) :
    EndsDigits (c :: rest) := by
  intro d first
  obtain rfl := Option.some.inj first
  exact other

theorem spanDigits_append {ds rest : List Char} (all : ∀ c ∈ ds, isDigit c = true)
    (ends : EndsDigits rest) : spanDigits (ds ++ rest) = (ds, rest) := by
  have stops : rest.takeWhile isDigit = [] ∧ rest.dropWhile isDigit = rest := by
    cases rest with
    | nil => exact ⟨rfl, rfl⟩
    | cons c rest => simp [ends c rfl]
  rw [spanDigits, List.takeWhile_append_of_pos all, List.dropWhile_append_of_pos all, stops.1, stops.2,
    List.append_nil]

end Reindexing.Decimal
