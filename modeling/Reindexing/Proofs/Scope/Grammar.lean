import Mathlib.Data.List.Sort
import Reindexing.Proofs.Scope.Canonical

/-!
# The grammar of scopes

A list of keys is read from left to right until a key decides: a blank one refuses the
list, one that names all sources accepts them all. `Ahead` says in terms of the list
alone which of the two comes first. Where neither occurs, the keys are read as the set
of their trimmed forms, so that a scope of sources depends on nothing but the elements
of the list.

Order and repetition of keys do not matter to how a list is read as long as blank keys
and keys that name all sources do not occur together. A list that mixes both kinds is
read by the one that comes first, so that some rearrangement of it is read differently.
-/
namespace Reindexing.Scope

/-- Some key satisfies `p`, and no key before it satisfies `q`. -/
def Ahead (p q : String → Prop) (raws : List String) : Prop :=
  ∃ front raw back, raws = front ++ raw :: back ∧ p raw ∧ ∀ other ∈ front, ¬ q other

section
variable {p q : String → Prop} {raw : String} {raws rest : List String}

theorem not_ahead_nil : ¬ Ahead p q [] := by
  rintro ⟨front, raw, back, same, _⟩
  cases front <;> cases same

theorem ahead_cons : Ahead p q (raw :: rest) ↔ p raw ∨ ¬ q raw ∧ Ahead p q rest := by
  constructor
  · rintro ⟨front, first, back, same, holds, before⟩
    cases front with
    | nil =>
      cases same
      exact .inl holds
    | cons other front =>
      cases same
      exact .inr ⟨before raw List.mem_cons_self,
        front, first, back, rfl, holds, fun k member => before k (List.mem_cons_of_mem _ member)⟩
  · rintro (holds | ⟨other, front, first, back, rfl, holds, before⟩)
    · exact ⟨[], raw, rest, rfl, holds, nofun⟩
    · refine ⟨raw :: front, first, back, rfl, holds, fun k member => ?_⟩
      rcases List.mem_cons.mp member with rfl | member
      · exact other
      · exact before k member

instance decidableAhead (p q : String → Prop) [DecidablePred p] [DecidablePred q] :
    (raws : List String) → Decidable (Ahead p q raws)
  | [] => isFalse not_ahead_nil
  | raw :: rest =>
    have := decidableAhead p q rest
    decidable_of_iff (p raw ∨ ¬ q raw ∧ Ahead p q rest) ahead_cons.symm

theorem Ahead.exists_mem (ahead : Ahead p q raws) : ∃ raw ∈ raws, p raw := by
  obtain ⟨front, raw, back, rfl, holds, _⟩ := ahead
  exact ⟨raw, by simp, holds⟩

/-- Where no key satisfies `q`, every key is ahead. -/
theorem ahead_of_mem (member : raw ∈ raws) (holds : p raw) (others : ∀ k ∈ raws, ¬ q k) : Ahead p q raws := by
  obtain ⟨front, back, rfl⟩ := List.append_of_mem member
  exact ⟨front, raw, back, rfl, holds, fun k known => others k (List.mem_append_left _ known)⟩

end

variable {raw key : String} {keys raws others result : List String}

theorem gather_blankKey_iff : gather keys raws = .error .blankKey ↔ Ahead IsBlankKey NamesAll raws := by
  induction raws generalizing keys with
  | nil => by_cases empty : keys = [] <;> simp [gather, empty, not_ahead_nil]
  | cons raw rest ih =>
    rw [ahead_cons]
    by_cases blank : IsBlankKey raw
    · exact iff_of_true (gather_blank blank) (.inl blank)
    · by_cases names : NamesAll raw
      · simp [gather_namesAll names, blank, names]
      · simp [gather_plain blank names, ih, blank, names]

theorem gather_all_iff : gather keys raws = .ok .all ↔ Ahead NamesAll IsBlankKey raws := by
  induction raws generalizing keys with
  | nil => by_cases empty : keys = [] <;> simp [gather, empty, not_ahead_nil]
  | cons raw rest ih =>
    rw [ahead_cons]
    by_cases blank : IsBlankKey raw
    · simp [gather_blank blank, blank, not_namesAll_of_blank blank]
    · by_cases names : NamesAll raw
      · exact iff_of_true (gather_namesAll names) (.inl names)
      · simp [gather_plain blank names, ih, blank, names]

theorem insertKey_ne_nil : insertKey key keys ≠ [] :=
  List.ne_nil_of_mem (mem_insertKey.mpr (.inl rfl))

theorem gather_noKeys_iff : gather keys raws = .error .noKeys ↔ keys = [] ∧ raws = [] := by
  induction raws generalizing keys with
  | nil => simp [gather]
  | cons raw rest ih =>
    refine iff_of_false (fun refused => ?_) (by simp)
    by_cases blank : IsBlankKey raw
    · rw [gather_blank blank] at refused
      cases refused
    · by_cases names : NamesAll raw
      · rw [gather_namesAll names] at refused
        cases refused
      · rw [gather_plain blank names, ih] at refused
        exact insertKey_ne_nil refused.1

/-- What is gathered are the keys from before and the trimmed forms of the list. -/
theorem mem_gather (accepted : gather keys raws = .ok (.sources result)) :
    key ∈ result ↔ key ∈ keys ∨ ∃ raw ∈ raws, Text.trim raw = key := by
  induction raws generalizing keys with
  | nil =>
    obtain ⟨_, rfl⟩ := gather_nil_sources accepted
    simp
  | cons raw rest ih =>
    obtain ⟨_, _, accepted⟩ := gather_cons_sources accepted
    rw [ih accepted, mem_insertKey, List.exists_mem_cons_iff, @eq_comm _ key, or_assoc, or_left_comm]

/-- The keys are the trimmed elements of the list as a set: strictly increasing, and valid as keys. -/
structure IsSetOf (keys raws : List String) : Prop where
  filled : keys ≠ []
  are : AreKeys keys
  mem : ∀ key, key ∈ keys ↔ ∃ raw ∈ raws, Text.trim raw = key

theorem isSetOf_of_ofKeys (accepted : ofKeys raws = .ok (.sources keys)) : IsSetOf keys raws where
  filled := (IsAccepted.keys ⟨raws, accepted⟩).1
  are := IsAccepted.areKeys ⟨raws, accepted⟩
  mem key := (mem_gather accepted).trans (by simp)

namespace IsSetOf

theorem plain (set : IsSetOf keys raws) (member : raw ∈ raws) : ¬ IsBlankKey raw ∧ ¬ NamesAll raw :=
  (set.are.each _ ((set.mem _).mpr ⟨raw, member, rfl⟩)).plain

theorem unique {other : List String} (set : IsSetOf keys raws) (same : IsSetOf other raws) : keys = other :=
  set.are.increasing.eq_of_mem_iff same.are.increasing fun key => (set.mem key).trans (same.mem key).symm

theorem of_same (set : IsSetOf keys raws) (same : ∀ raw, raw ∈ others ↔ raw ∈ raws) : IsSetOf keys others :=
  ⟨set.filled, set.are, fun key => by simp only [set.mem, same]⟩

end IsSetOf

/-- Without a key that decides, a list that is not empty is read as a set. -/
theorem exists_isSetOf (filled : raws ≠ []) (accepted : ¬ Ahead IsBlankKey NamesAll raws)
    (single : ¬ Ahead NamesAll IsBlankKey raws) :
    ∃ keys, ofKeys raws = .ok (.sources keys) ∧ IsSetOf keys raws := by
  cases read : ofKeys raws with
  | error r =>
    cases r with
    | blankKey => exact absurd (gather_blankKey_iff.mp read) accepted
    | noKeys => exact absurd (gather_noKeys_iff.mp read).2 filled
  | ok s =>
    cases s with
    | all => exact absurd (gather_all_iff.mp read) single
    | sources keys => exact ⟨keys, rfl, isSetOf_of_ofKeys read⟩

theorem ofKeys_sources_iff : ofKeys raws = .ok (.sources keys) ↔ IsSetOf keys raws := by
  refine ⟨isSetOf_of_ofKeys, fun set => ?_⟩
  obtain ⟨raw, member, _⟩ := (set.mem _).mp (List.head_mem set.filled)
  have accepted : ¬ Ahead IsBlankKey NamesAll raws := fun ahead =>
    have ⟨_, member, blank⟩ := ahead.exists_mem
    (set.plain member).1 blank
  have single : ¬ Ahead NamesAll IsBlankKey raws := fun ahead =>
    have ⟨_, member, names⟩ := ahead.exists_mem
    (set.plain member).2 names
  obtain ⟨other, read, same⟩ := exists_isSetOf (List.ne_nil_of_mem member) accepted single
  rw [read, set.unique same]

/-- Reading fails exactly for the empty list and where a blank key is ahead of all keys that name all
sources. -/
theorem ofKeys_error_iff :
    (∃ r, ofKeys raws = .error r) ↔ raws = [] ∨ Ahead IsBlankKey NamesAll raws := by
  constructor
  · rintro ⟨r, refused⟩
    cases r with
    | blankKey => exact .inr (gather_blankKey_iff.mp refused)
    | noKeys => exact .inl (gather_noKeys_iff.mp refused).2
  · rintro (rfl | ahead)
    · exact ⟨.noKeys, rfl⟩
    · exact ⟨.blankKey, gather_blankKey_iff.mpr ahead⟩

end Reindexing.Scope

/-! ### Rearranged lists of keys -/

namespace Reindexing.Scope

/-- Both kinds of keys that decide occur in the list. -/
def Mixes (raws : List String) : Prop := (∃ raw ∈ raws, IsBlankKey raw) ∧ ∃ raw ∈ raws, NamesAll raw

instance (raws : List String) : Decidable (Mixes raws) := inferInstanceAs (Decidable (_ ∧ _))

variable {raws others : List String}

/-- Every reading of a list that does not mix depends on its elements only. -/
theorem ofKeys_of_same (apart : ¬ Mixes raws) (same : ∀ raw, raw ∈ others ↔ raw ∈ raws) :
    ofKeys others = ofKeys raws := by
  cases read : ofKeys raws with
  | error r =>
    cases r with
    | blankKey =>
      obtain ⟨raw, member, blank⟩ := (gather_blankKey_iff.mp read).exists_mem
      have none_names : ∀ k ∈ others, ¬ NamesAll k := fun k known names =>
        apart ⟨⟨raw, member, blank⟩, k, (same k).mp known, names⟩
      exact gather_blankKey_iff.mpr (ahead_of_mem ((same raw).mpr member) blank none_names)
    | noKeys =>
      obtain ⟨_, rfl⟩ := gather_noKeys_iff.mp read
      have empty : others = [] := List.eq_nil_iff_forall_not_mem.mpr fun raw member => nomatch (same raw).mp member
      rw [empty, ← read]
  | ok s =>
    cases s with
    | all =>
      obtain ⟨raw, member, names⟩ := (gather_all_iff.mp read).exists_mem
      have none_blank : ∀ k ∈ others, ¬ IsBlankKey k := fun k known blank =>
        apart ⟨⟨k, (same k).mp known, blank⟩, raw, member, names⟩
      exact gather_all_iff.mpr (ahead_of_mem ((same raw).mpr member) names none_blank)
    | sources keys => exact ofKeys_sources_iff.mpr ((isSetOf_of_ofKeys read).of_same same)

/-- The key that decided is put behind one of the other kind. -/
theorem exists_rearranged (mixes : Mixes raws) : ∃ others, others.Perm raws ∧ ofKeys others ≠ ofKeys raws := by
  obtain ⟨⟨blank, known, isBlank⟩, all, member, names⟩ := mixes
  by_cases accepted : ofKeys raws = .ok .all
  · refine ⟨blank :: raws.erase blank, (List.perm_cons_erase known).symm, ?_⟩
    rw [accepted, ofKeys, gather_blank isBlank]
    nofun
  · refine ⟨all :: raws.erase all, (List.perm_cons_erase member).symm, fun same => accepted ?_⟩
    rw [← same]
    exact gather_namesAll names

/-- Lists with the same elements are read alike, as the same scope or with the same refusal, exactly if no
blank key stands beside one that names all sources. A list that mixes them is read differently in another
order of the same keys. -/
theorem order_matters_only_to_mixed_lists (raws : List String) :
    (¬ Mixes raws → ∀ others : List String, (∀ raw, raw ∈ others ↔ raw ∈ raws) → ofKeys others = ofKeys raws) ∧
    (Mixes raws → ∃ others, others.Perm raws ∧ ofKeys others ≠ ofKeys raws) :=
  ⟨fun apart _ same => ofKeys_of_same apart same, exists_rearranged⟩

/-- Two sources in another order and one of them twice are the same scope, and two blank keys are refused like
one. A list of a blank key and `ALL` is read differently in another order. -/
theorem order_of_sources_and_of_a_mixed_list :
    ofKeys ["news", " filings", "news\n"] = .ok (.sources ["filings", "news"]) ∧
      ofKeys [" filings", "news\n", "news", " filings"] = .ok (.sources ["filings", "news"]) ∧
      ofKeys ["\t", "a", "\t"] = .error .blankKey ∧
      ∃ others, others.Perm [" ", "ALL"] ∧ ofKeys others ≠ ofKeys [" ", "ALL"] := by
  have sources : ofKeys ["news", " filings", "news\n"] = .ok (.sources ["filings", "news"]) := by decide
  have blank : ofKeys ["a", "\t"] = .error .blankKey := by decide
  refine ⟨sources, ?_, ?_, (order_matters_only_to_mixed_lists [" ", "ALL"]).2 (by decide)⟩
  · rw [← sources]
    refine (order_matters_only_to_mixed_lists ["news", " filings", "news\n"]).1 (by decide) _ fun raw => ?_
    simp only [List.mem_cons, List.not_mem_nil, or_false]
    grind
  · rw [← blank]
    refine (order_matters_only_to_mixed_lists ["a", "\t"]).1 (by decide) _ fun raw => ?_
    simp only [List.mem_cons, List.not_mem_nil, or_false]
    grind

/-- Of two lists with the same two keys, the one that starts with the blank key is refused, and the other is
the scope of all sources. -/
theorem order_decides_a_mixed_list :
    ¬ ∀ raws others : List String, others.Perm raws → ofKeys others = ofKeys raws := by
  intro same
  have refused : ofKeys [" ", "all"] = .error .blankKey := by decide
  have accepted : ofKeys ["all", " "] = .ok .all := by decide
  have alike := same [" ", "all"] ["all", " "] (List.Perm.swap " " "all" [])
  rw [refused, accepted] at alike
  cases alike

end Reindexing.Scope
