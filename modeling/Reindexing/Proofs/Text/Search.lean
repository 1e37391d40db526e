import Mathlib.Algebra.GroupWithZero.Nat
import Mathlib.Data.List.Basic
import Mathlib.Data.List.DropRight
import Reindexing.Text.Lowercase
import Reindexing.Text.Search

/-!
# Lines, and searching up to case

Two texts that are joined share one part: the last part of the first and the first
part of the second become one. A text is made of lines when a line end stands behind
each of them; then nothing is shared with a text that follows.

A text contains a pattern if the pattern stands somewhere in it without a gap. The
lowercase form of a text has at least one character for each of its characters, and
how many does not depend on what stands around it. So the lowercase form of a text
is longer than that of any proper part of it, and is not found there.
-/
namespace Reindexing.Text

variable {p : Char → Bool} {cs ds last first : List Char} {parts more : List (List Char)}

theorem splitAt_ne_nil (p : Char → Bool) (cs : List Char) : splitAt p cs ≠ [] := by
  cases cs with
  | nil => exact List.cons_ne_nil _ _
  | cons c cs =>
    simp only [splitAt]
    repeat' split
    all_goals exact List.cons_ne_nil _ _

/-- A text without a separator is one part. -/
theorem splitAt_of_none (none_separates : ∀ c ∈ cs, p c = false) : splitAt p cs = [cs] := by
  induction cs with
  | nil => rfl
  | cons c cs ih =>
    have single := ih fun d member => none_separates d (List.mem_cons_of_mem _ member)
    have other := none_separates c List.mem_cons_self
    simp [splitAt, other, single]

/-- The last part of a text continues in the first part of the text that follows. -/
theorem splitAt_append (front : splitAt p cs = parts ++ [last]) (back : splitAt p ds = first :: more) :
    splitAt p (cs ++ ds) = parts ++ (last ++ first) :: more := by
  induction cs generalizing parts last with
  | nil =>
    have eq : parts ++ [last] = [] ++ [[]] := front.symm
    obtain ⟨rfl, rfl⟩ := List.append_singleton_inj.mp eq
    exact back
  | cons c cs ih =>
    by_cases separates : p c = true
    · have front : [] :: splitAt p cs = parts ++ [last] := by simpa [splitAt, separates] using front
      cases parts with
      | nil => exact absurd (List.cons.inj front).2 (splitAt_ne_nil p cs)
      | cons part parts =>
        obtain ⟨rfl, rest⟩ := List.cons.inj front
        simp [splitAt, separates, ih rest]
    · cases rest : splitAt p cs with
      | nil => exact absurd rest (splitAt_ne_nil p cs)
      | cons part others =>
        have front : (c :: part) :: others = parts ++ [last] := by simpa [splitAt, separates, rest] using front
        cases parts with
        | nil =>
          obtain ⟨rfl, rfl⟩ := List.cons.inj front
          have joined := ih (show splitAt p cs = [] ++ [part] from rest)
          simp [splitAt, separates, joined]
        | cons part' parts =>
          obtain ⟨rfl, rfl⟩ := List.cons.inj front
          have joined := ih (show splitAt p cs = (part :: parts) ++ [last] from rest)
          simp [splitAt, separates, joined]

/-- A text is made of lines, each with its line end. -/
def IsLines (text : String) (lines : List String) : Prop :=
  splitAt (· == '\n') text.toList = lines.map String.toList ++ [[]]

variable {a b line : String} {lines others : List String}

theorem isLines_empty : IsLines "" [] := rfl

theorem isLines_line (whole : '\n' ∉ line.toList) : IsLines (line ++ "\n") [line] := by
  have other : ∀ c ∈ line.toList, (c == '\n') = false := fun c member =>
    beq_eq_false_iff_ne.mpr fun same => whole (same ▸ member)
  have front : splitAt (· == '\n') line.toList = [] ++ [line.toList] := splitAt_of_none other
  have back : splitAt (· == '\n') "\n".toList = [] :: [[]] := rfl
  rw [IsLines, String.toList_append, splitAt_append front back, List.append_nil]
  rfl

/-- Every text has a last part. -/
theorem exists_last (p : Char → Bool) (cs : List Char) : ∃ parts last, splitAt p cs = parts ++ [last] :=
  List.eq_nil_or_concat' (splitAt p cs) |>.resolve_left (splitAt_ne_nil p cs)

theorem exists_first (lines : List String) : ∃ first more, lines.map String.toList ++ [[]] = first :: more :=
  List.exists_cons_of_ne_nil (List.append_ne_nil_of_right_ne_nil _ (List.cons_ne_nil _ _))

theorem IsLines.append (front : IsLines a lines) (back : IsLines b others) : IsLines (a ++ b) (lines ++ others) := by
  obtain ⟨first, more, parts⟩ := exists_first others
  unfold IsLines at *
  rw [String.toList_append, splitAt_append front (back.trans parts), List.map_append, List.append_assoc, parts,
    List.nil_append]

/-- Lines at the end of a text are lines of their own only behind lines. -/
theorem IsLines.of_append (back : IsLines b others) (whole : IsLines (a ++ b) (lines ++ others)) : IsLines a lines := by
  obtain ⟨parts, last, front⟩ := exists_last (· == '\n') a.toList
  obtain ⟨first, more, split⟩ := exists_first others
  unfold IsLines at *
  rw [String.toList_append, splitAt_append front (back.trans split), List.map_append, List.append_assoc, split]
    at whole
  obtain ⟨same, joined⟩ := List.append_inj' whole rfl
  have last_eq : last = [] := List.append_left_eq_self.mp (List.cons.inj joined).1
  rw [front, same, last_eq]

/-- A text is made of lines when it is empty or ends with a line end. -/
theorem isLines_iff (a : String) : (∃ lines, IsLines a lines) ↔ a = "" ∨ a.toList.getLast? = some '\n' := by
  rcases List.eq_nil_or_concat' a.toList with empty | ⟨cs, c, ended⟩
  · have blank : a = "" := String.toList_eq_nil_iff.mp empty
    exact ⟨fun _ => .inl blank, fun _ => ⟨[], blank ▸ isLines_empty⟩⟩
  · have filled : a ≠ "" := by
      rintro rfl
      simp at ended
    obtain ⟨parts, last, front⟩ := exists_last (· == '\n') cs
    rw [ended, List.getLast?_concat, Option.some.injEq, or_iff_right filled]
    constructor
    · rintro ⟨lines, are⟩
      refine Decidable.byContradiction fun other => ?_
      have back : splitAt (· == '\n') [c] = [c] :: [] := splitAt_of_none (by simpa using other)
      rw [IsLines, ended, splitAt_append front back] at are
      obtain ⟨_, joined⟩ := List.append_inj' are rfl
      simp at joined
    · rintro rfl
      have back : splitAt (· == '\n') ['\n'] = [] :: [[]] := rfl
      refine ⟨(parts ++ [last]).map String.ofList, ?_⟩
      rw [IsLines, ended, splitAt_append front back]
      simp

end Reindexing.Text

/-! ### Searching -/

namespace Reindexing.Text

variable {pattern text front back : List Char} {s t : String}

theorem containsChars_iff : containsChars pattern text = true ↔ pattern <:+: text := by
  induction text with
  | nil => simp [containsChars]
  | cons c rest ih =>
    rw [containsChars, Bool.or_eq_true, ih, List.isPrefixOf_iff_prefix, List.infix_cons_iff]

theorem contains_iff : contains t s = true ↔ s.toList <:+: t.toList := containsChars_iff

@[simp] theorem contains_self (s : String) : contains s s = true := contains_iff.mpr List.infix_rfl

/-! ### Lengths of lowercase forms -/

/-- How many characters the lowercase form of a character has. -/
def lowercaseWidth (c : Char) : Nat := if c = 'Σ' then 1 else (lowercaseChar c).length

theorem lowercaseWidth_pos (c : Char) : 0 < lowercaseWidth c := by
  unfold lowercaseWidth lowercaseChar
  split
  · exact Nat.one_pos
  · split
    · exact Nat.one_pos
    · split
      · exact Nat.two_pos
      · split <;> exact Nat.one_pos

/-- Only the sigma rule looks at the text around a character, and its two forms are equally long. -/
theorem length_lowercaseChars (before text : List Char) :
    (lowercaseChars before text).length = (text.map lowercaseWidth).sum := by
  induction text generalizing before with
  | nil => rfl
  | cons c rest ih =>
    rw [lowercaseChars, List.length_append, ih, List.map_cons, List.sum_cons]
    by_cases sigma : c = 'Σ'
    · simp [lowercaseWidth, sigma]
    · simp [lowercaseWidth, sigma]

theorem length_lowercase (s : String) : (lowercase s).toList.length = (s.toList.map lowercaseWidth).sum := by
  rw [lowercase, String.toList_ofList, length_lowercaseChars]

theorem length_le_lowercaseWidths (text : List Char) : text.length ≤ (text.map lowercaseWidth).sum := by
  induction text with
  | nil => exact Nat.le_refl 0
  | cons c rest ih =>
    have wide := lowercaseWidth_pos c
    simp only [List.length_cons, List.map_cons, List.sum_cons]
    omega

theorem lowercase_ne_empty (filled : s ≠ "") : lowercase s ≠ "" := by
  intro empty
  have length := length_lowercase s
  have wide := length_le_lowercaseWidths s.toList
  rw [empty] at length
  have none : s.toList.length = 0 := by
    simp only [String.toList_empty, List.length_nil] at length
    omega
  exact filled (String.toList_eq_nil_iff.mp (List.length_eq_zero_iff.mp none))

/-- A text with more around it is not found in the lowercase form of itself alone. -/
theorem not_contains_of_around (around : s.toList = front ++ t.toList ++ back) (more : front ++ back ≠ []) :
    contains (lowercase t) (lowercase s) = false := by
  rw [← Bool.not_eq_true, contains_iff]
  intro found
  have longer := found.length_le
  have wide := length_le_lowercaseWidths (front ++ back)
  have filled := List.length_pos_iff.mpr more
  rw [length_lowercase, length_lowercase, around] at longer
  simp only [List.map_append, List.sum_append] at longer wide
  omega

/-! ### Trimmed texts -/

/-- The text neither starts nor ends with a blank. -/
structure IsTrimmed (text : List Char) : Prop where
  first : ∀ c, text.head? = some c → isBlank c = false
  last : ∀ c, text.getLast? = some c → isBlank c = false

theorem trimChars_eq_self_iff : trimChars text = text ↔ IsTrimmed text := by
  constructor
  · intro same
    have shorter : (trimChars text).length ≤ (trimStartChars text).length :=
      (List.rdropWhile_prefix isBlank _).length_le
    have front : trimStartChars text = text := by
      refine (List.dropWhile_suffix isBlank).eq_of_length_le ?_
      rwa [same] at shorter
    rw [trimChars, front] at same
    constructor
    · intro c starts
      rw [trimStartChars, List.dropWhile_eq_self_iff] at front
      have filled := List.length_pos_of_mem (List.mem_of_mem_head? starts)
      have first := front filled
      rw [List.head?_eq_getElem?, List.getElem?_eq_getElem filled] at starts
      rwa [Option.some.inj starts, Bool.not_eq_true] at first
    · intro c ends
      have filled : text ≠ [] := List.ne_nil_of_mem (List.mem_of_getLast? ends)
      have last := List.rdropWhile_eq_self_iff.mp same filled
      rw [List.getLast?_eq_some_getLast filled] at ends
      rwa [Option.some.inj ends, Bool.not_eq_true] at last
  · intro trimmed
    have front : trimStartChars text = text := by
      refine List.dropWhile_eq_self_iff.mpr fun filled => ?_
      have starts : text.head? = some text[0] := by rw [List.head?_eq_getElem?, List.getElem?_eq_getElem]
      rw [trimmed.first _ starts]
      exact Bool.false_ne_true
    rw [trimChars, front]
    refine List.rdropWhile_eq_self_iff.mpr fun filled => ?_
    rw [trimmed.last _ (List.getLast?_eq_some_getLast filled)]
    exact Bool.false_ne_true

theorem trim_eq_self_iff : trim s = s ↔ IsTrimmed s.toList := by
  rw [← trimChars_eq_self_iff, trim, ← String.toList_inj, String.toList_ofList]

/-- What stands between two trimmed texts does not matter. -/
theorem IsTrimmed.append {between : List Char} (left : IsTrimmed front) (right : IsTrimmed back)
    (filled_left : front ≠ []) (filled_right : back ≠ []) : IsTrimmed (front ++ between ++ back) := by
  constructor
  · intro c starts
    rw [List.append_assoc, List.head?_append_of_ne_nil _ filled_left] at starts
    exact left.first c starts
  · intro c ends
    rw [List.getLast?_append_of_ne_nil _ filled_right] at ends
    exact right.last c ends

end Reindexing.Text
