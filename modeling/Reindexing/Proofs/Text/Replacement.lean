import Mathlib.Data.List.Infix
import Reindexing.Text.Search

/-!
# Replacing an opened pattern

A pattern is opened if its first character does not occur in it again. Its occurrences
do not overlap, so that all of them can be marked in a text, and replacing them from left
to right puts the value in place of the marks.

Where only some occurrences are marked, replacing has the same effect as putting the value
in place of the marks exactly if none is left unmarked, or if the value is the pattern
itself.
-/
namespace Reindexing.Text

variable {o c : Char} {q value front cs pattern text : List Char}

/-! ### Occurrences -/

/-- How many times a pattern starts in a text. -/
def occurrences (pattern text : List Char) : Nat := text.tails.countP (pattern.isPrefixOf ·)

theorem occurrences_pos_iff : 0 < occurrences pattern text ↔ pattern <:+: text := by
  simp only [occurrences, List.countP_pos_iff, List.mem_tails, List.isPrefixOf_iff_prefix,
    List.infix_iff_prefix_suffix, and_comm]

theorem occurrences_cons_of_starts (starts : pattern <+: c :: cs) :
    occurrences pattern (c :: cs) = occurrences pattern cs + 1 := by
  rw [occurrences, List.tails_cons, List.countP_cons_of_pos (List.isPrefixOf_iff_prefix.mpr starts), occurrences]

theorem occurrences_cons_of_not (other : ¬ pattern <+: c :: cs) :
    occurrences pattern (c :: cs) = occurrences pattern cs := by
  have miss : ¬ pattern.isPrefixOf (c :: cs) = true := by rwa [List.isPrefixOf_iff_prefix]
  rw [occurrences, List.tails_cons, List.countP_cons_of_neg miss, occurrences]

theorem not_starts_of_ne (other : c ≠ o) : ¬ o :: q <+: c :: cs := fun starts =>
  other (List.cons_prefix_cons.mp starts).1.symm

theorem occurrences_append_of_notMem (other : o ∉ front) :
    occurrences (o :: q) (front ++ cs) = occurrences (o :: q) cs := by
  induction front with
  | nil => rfl
  | cons c front ih =>
    rw [List.mem_cons, not_or] at other
    rw [List.cons_append, occurrences_cons_of_not (not_starts_of_ne (Ne.symm other.1)), ih other.2]

theorem occurrences_append_self (opened : o ∉ q) :
    occurrences (o :: q) (o :: q ++ cs) = occurrences (o :: q) cs + 1 := by
  have starts : o :: q <+: o :: (q ++ cs) := List.prefix_append (o :: q) cs
  rw [List.cons_append, occurrences_cons_of_starts starts, occurrences_append_of_notMem opened]

/-- Some end of a text agrees with the pattern as far as both go, so that the pattern may start inside the text. -/
def StartsIn (pattern text : List Char) : Prop :=
  ∃ rest ∈ text.tails, rest ≠ [] ∧ (rest <+: pattern ∨ pattern <+: rest)

instance (pattern text : List Char) : Decidable (StartsIn pattern text) :=
  inferInstanceAs (Decidable (∃ rest ∈ text.tails, _))

theorem startsIn_cons :
    StartsIn pattern (c :: cs) ↔ (c :: cs <+: pattern ∨ pattern <+: c :: cs) ∨ StartsIn pattern cs := by
  simp [StartsIn]

theorem occurrences_append_of_not_startsIn (apart : ¬ StartsIn pattern front) :
    occurrences pattern (front ++ cs) = occurrences pattern cs := by
  induction front with
  | nil => rfl
  | cons c front ih =>
    rw [startsIn_cons, not_or] at apart
    have other : ¬ pattern <+: c :: (front ++ cs) := fun starts =>
      apart.1 (List.prefix_or_prefix_of_prefix (List.prefix_append (c :: front) cs) starts)
    rw [List.cons_append, occurrences_cons_of_not other, ih apart.2]

/-! ### Replacing -/

theorem replaceChars_skip (front cs : List Char) :
    replaceChars pattern value front.length (front ++ cs) = replaceChars pattern value 0 cs := by
  induction front with
  | nil => rfl
  | cons c front ih => exact ih

theorem replaceChars_self : replaceChars (o :: q) value 0 (o :: q ++ cs) =
    value ++ replaceChars (o :: q) value 0 cs := by
  have starts : (o :: q).isPrefixOf (o :: (q ++ cs)) = true :=
    List.isPrefixOf_iff_prefix.mpr (List.prefix_append (o :: q) cs)
  rw [List.cons_append, replaceChars, if_pos starts, List.length_cons, Nat.add_sub_cancel, replaceChars_skip]

theorem replaceChars_of_not (other : ¬ pattern <+: c :: cs) :
    replaceChars pattern value 0 (c :: cs) = c :: replaceChars pattern value 0 cs := by
  rw [replaceChars, if_neg (by rwa [List.isPrefixOf_iff_prefix])]

theorem replaceChars_of_notMem (other : o ∉ front) :
    replaceChars (o :: q) value 0 (front ++ cs) = front ++ replaceChars (o :: q) value 0 cs := by
  induction front with
  | nil => rfl
  | cons c front ih =>
    rw [List.mem_cons, not_or] at other
    rw [List.cons_append, replaceChars_of_not (not_starts_of_ne (Ne.symm other.1)), ih other.2, List.cons_append]

/-! ### Marked occurrences -/

/-- A text in which `none` stands for a marked occurrence, with a value in the place of each mark. -/
def unmark (value : List Char) (marked : List (Option Char)) : List Char :=
  marked.flatMap fun c => c.elim value ([·])

variable {marked : List (Option Char)}

@[simp] theorem unmark_nil : unmark value [] = [] := rfl

@[simp] theorem unmark_mark : unmark value (none :: marked) = value ++ unmark value marked := rfl

@[simp] theorem unmark_char : unmark value (some c :: marked) = c :: unmark value marked := rfl

@[simp] theorem unmark_chars : unmark value (front.map some ++ marked) = front ++ unmark value marked := by
  induction front with
  | nil => rfl
  | cons c front ih => rw [List.map_cons, List.cons_append, unmark_char, ih, List.cons_append]

theorem count_marks : (front.map some ++ marked).count none = marked.count none := by
  have plain : (front.map some).count (none : Option Char) = 0 := List.count_eq_zero.mpr (by simp)
  rw [List.count_append, plain, Nat.zero_add]

theorem length_unmark (pattern value : List Char) (marked : List (Option Char)) :
    (unmark value marked).length + pattern.length * marked.count none =
      (unmark pattern marked).length + value.length * marked.count none := by
  induction marked with
  | nil => simp
  | cons c marked ih =>
    cases c with
    | none =>
      simp only [unmark_mark, List.length_append, List.count_cons_self, Nat.mul_succ]
      omega
    | some c =>
      simp only [unmark_char, List.length_cons, List.count_cons, reduceCtorEq, beq_iff_eq, if_false, Nat.add_zero]
      omega

/-- A marked text as it is read from left to right: a mark, an occurrence that is not marked, or a character
with which no occurrence starts. -/
inductive Scanned (pattern : List Char) : List (Option Char) → Prop
  | nil : Scanned pattern []
  | mark {marked : List (Option Char)} (rest : Scanned pattern marked) : Scanned pattern (none :: marked)
  | unmarked {marked : List (Option Char)} (rest : Scanned pattern marked) :
      Scanned pattern (pattern.map some ++ marked)
  | char {c : Char} {marked : List (Option Char)} (other : ¬ pattern <+: c :: unmark pattern marked)
      (rest : Scanned pattern marked) : Scanned pattern (some c :: marked)

/-- Characters other than the first one of the pattern do not come from a mark. -/
theorem exists_chars (starts : front <+: unmark (o :: q) marked) (other : o ∉ front) :
    ∃ rest, marked = front.map some ++ rest := by
  induction front generalizing marked with
  | nil => exact ⟨marked, rfl⟩
  | cons c front ih =>
    rw [List.mem_cons, not_or] at other
    cases marked with
    | nil => exact absurd (List.prefix_nil.mp starts) (List.cons_ne_nil _ _)
    | cons d marked =>
      cases d with
      | none => exact absurd (List.cons_prefix_cons.mp starts).1.symm other.1
      | some d =>
        obtain ⟨rfl, behind⟩ := List.cons_prefix_cons.mp starts
        obtain ⟨rest, rfl⟩ := ih behind other.2
        exact ⟨rest, rfl⟩

/-- Since an opened pattern does not overlap with itself, every marked text can be read. -/
theorem scanned (opened : o ∉ q) (marked : List (Option Char)) : Scanned (o :: q) marked := by
  induction size : marked.length using Nat.strong_induction_on generalizing marked with
  | h n ih =>
    subst size
    match marked with
    | [] => exact .nil
    | none :: marked => exact .mark (ih _ (Nat.lt_succ_self _) marked rfl)
    | some c :: marked =>
      by_cases starts : o :: q <+: c :: unmark (o :: q) marked
      · obtain ⟨rfl, behind⟩ := List.cons_prefix_cons.mp starts
        obtain ⟨rest, rfl⟩ := exists_chars behind opened
        refine .unmarked (ih _ ?_ rest rfl)
        simp only [List.length_cons, List.length_append]
        omega
      · exact .char starts (ih _ (Nat.lt_succ_self _) marked rfl)

/-- All occurrences of a pattern in a text are marked, so that replacing finds the marks. -/
structure MarksAll (pattern : List Char) (all : List (Option Char)) (text : List Char) : Prop where
  marks : unmark pattern all = text
  count : occurrences pattern text = all.count none
  replaced : ∀ value, replaceChars pattern value 0 text = unmark value all

namespace MarksAll

variable {all : List (Option Char)}

theorem mark (opened : o ∉ q) (marks : MarksAll (o :: q) all cs) :
    MarksAll (o :: q) (none :: all) (o :: q ++ cs) where
  marks := by rw [unmark_mark, marks.marks]
  count := by rw [occurrences_append_self opened, marks.count, List.count_cons_self]
  replaced value := by rw [replaceChars_self, marks.replaced, unmark_mark]

theorem char (other : ¬ pattern <+: c :: cs) (marks : MarksAll pattern all cs) :
    MarksAll pattern (some c :: all) (c :: cs) where
  marks := by rw [unmark_char, marks.marks]
  count := by rw [occurrences_cons_of_not other, marks.count, List.count_cons_of_ne (Option.some_ne_none c)]
  replaced value := by rw [replaceChars_of_not other, marks.replaced, unmark_char]

end MarksAll

/-- The occurrences of a text can be marked, those that are marked already among them. -/
theorem Scanned.exists_marksAll (opened : o ∉ q) (scan : Scanned (o :: q) marked) :
    ∃ all, MarksAll (o :: q) all (unmark (o :: q) marked) ∧ marked.count none ≤ all.count none := by
  induction scan with
  | nil => exact ⟨[], ⟨rfl, rfl, fun _ => rfl⟩, Nat.le_refl _⟩
  | mark _ ih =>
    obtain ⟨all, marks, least⟩ := ih
    refine ⟨none :: all, marks.mark opened, ?_⟩
    rw [List.count_cons_self, List.count_cons_self]
    exact Nat.succ_le_succ least
  | unmarked _ ih =>
    obtain ⟨all, marks, least⟩ := ih
    refine ⟨none :: all, ?_, ?_⟩
    · rw [unmark_chars]
      exact marks.mark opened
    · rw [count_marks, List.count_cons_self]
      exact Nat.le_succ_of_le least
  | @char c _ other _ ih =>
    obtain ⟨all, marks, least⟩ := ih
    refine ⟨some c :: all, marks.char other, ?_⟩
    rwa [List.count_cons_of_ne (Option.some_ne_none c), List.count_cons_of_ne (Option.some_ne_none c)]

theorem Scanned.count_le (opened : o ∉ q) (scan : Scanned (o :: q) marked) :
    marked.count none ≤ occurrences (o :: q) (unmark (o :: q) marked) := by
  obtain ⟨all, marks, least⟩ := scan.exists_marksAll opened
  rwa [marks.count]

/-- Without unmarked occurrences the marks alone are replaced. -/
theorem Scanned.replaced_of_count (opened : o ∉ q) (scan : Scanned (o :: q) marked)
    (all : occurrences (o :: q) (unmark (o :: q) marked) = marked.count none) :
    replaceChars (o :: q) value 0 (unmark (o :: q) marked) = unmark value marked := by
  induction scan with
  | nil => rfl
  | mark _ ih =>
    rw [unmark_mark, occurrences_append_self opened, List.count_cons_self] at all
    rw [unmark_mark, replaceChars_self, ih (Nat.succ.inj all), unmark_mark]
  | unmarked rest _ =>
    have fewer := rest.count_le opened
    rw [unmark_chars, occurrences_append_self opened, count_marks] at all
    omega
  | char other _ ih =>
    rw [unmark_char, occurrences_cons_of_not other, List.count_cons_of_ne (Option.some_ne_none _)] at all
    rw [unmark_char, replaceChars_of_not other, ih all, unmark_char]

/-- A value as long as the pattern keeps everything in its place, so that an unmarked occurrence that is replaced
shows the value. -/
theorem Scanned.count_of_replaced (opened : o ∉ q) (scan : Scanned (o :: q) marked)
    (long : value.length = (o :: q).length) (other : value ≠ o :: q)
    (same : replaceChars (o :: q) value 0 (unmark (o :: q) marked) = unmark value marked) :
    occurrences (o :: q) (unmark (o :: q) marked) = marked.count none := by
  induction scan with
  | nil => rfl
  | mark _ ih =>
    rw [unmark_mark, replaceChars_self, unmark_mark, List.append_cancel_left_eq] at same
    rw [unmark_mark, occurrences_append_self opened, List.count_cons_self, ih same]
  | unmarked _ _ =>
    rw [unmark_chars, replaceChars_self, unmark_chars] at same
    exact absurd (List.append_inj same long).1 other
  | char miss _ ih =>
    rw [unmark_char, replaceChars_of_not miss, unmark_char, List.cons.injEq] at same
    rw [unmark_char, occurrences_cons_of_not miss, List.count_cons_of_ne (Option.some_ne_none _), ih same.2]

/-- Replacing every occurrence is putting the value in place of the marks alone, exactly if the value is the
pattern itself or if all occurrences are marked. -/
theorem replaceChars_unmark_iff (opened : o ∉ q) : replaceChars (o :: q) value 0 (unmark (o :: q) marked) =
    unmark value marked ↔
      value = o :: q ∨ occurrences (o :: q) (unmark (o :: q) marked) = marked.count none := by
  have scan := scanned opened marked
  obtain ⟨all, marks, least⟩ := scan.exists_marksAll opened
  constructor
  · intro same
    rw [or_iff_not_imp_left]
    intro other
    by_cases long : value.length = (o :: q).length
    · exact scan.count_of_replaced opened long other same
    · -- each mark changes the length by as much, so that the lengths tell how many were replaced
      have replaced := length_unmark (o :: q) value all
      have marked_only := length_unmark (o :: q) value marked
      obtain ⟨more, count⟩ := Nat.exists_eq_add_of_le least
      rw [← marks.replaced, same, marks.marks, count, Nat.mul_add, Nat.mul_add] at replaced
      have alike : value.length * more = (o :: q).length * more := by omega
      rcases Nat.eq_zero_or_pos more with none | some
      · rw [marks.count, count, none, Nat.add_zero]
      · exact absurd (Nat.eq_of_mul_eq_mul_right some alike) long
  · rintro (rfl | all_marked)
    · rw [marks.replaced, marks.marks]
    · exact scan.replaced_of_count opened all_marked

end Reindexing.Text
