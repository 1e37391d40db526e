import Reindexing.Scope

/-!
# Reading keys, and the labels of scopes

Of the keys of a list, a blank one and one that names all sources end the reading, each
with its own verdict; any other is kept in its trimmed form. A list is read as a set of
sources only if every key was kept.

The label of a scope joins its keys by commas, and a key may itself contain one.
Among accepted scopes whose keys contain none the label decides the scope: the
parts between the commas are the keys again, and no key reads `all`.
-/
namespace Reindexing.Scope

/-- Nothing is left of the key when it is trimmed. -/
def IsBlankKey (raw : String) : Prop := Text.trim raw = ""

/-- The key reads `all` when it is trimmed, in capitals or small letters. -/
def NamesAll (raw : String) : Prop := Text.equalsIgnoringCase (Text.trim raw) keyword = true

instance : DecidablePred IsBlankKey := fun raw => inferInstanceAs (Decidable (Text.trim raw = ""))

instance : DecidablePred NamesAll := fun raw =>
  inferInstanceAs (Decidable (Text.equalsIgnoringCase (Text.trim raw) keyword = true))

theorem not_namesAll_of_blank {raw : String} (blank : IsBlankKey raw) : ¬ NamesAll raw := by
  rw [NamesAll, blank]
  decide

variable {raw : String} {keys rest result : List String}

theorem gather_blank (blank : IsBlankKey raw) : gather keys (raw :: rest) = .error .blankKey :=
  if_pos blank

theorem gather_namesAll (names : NamesAll raw) : gather keys (raw :: rest) = .ok .all :=
  (if_neg fun blank => not_namesAll_of_blank blank names).trans (if_pos names)

theorem gather_plain (filled : ¬ IsBlankKey raw) (single : ¬ NamesAll raw) :
    gather keys (raw :: rest) = gather (insertKey (Text.trim raw) keys) rest :=
  (if_neg filled).trans (if_neg single)

theorem gather_nil_sources (accepted : gather keys [] = .ok (.sources result)) : keys ≠ [] ∧ result = keys := by
  unfold gather at accepted
  split at accepted
  · cases accepted
  · next filled =>
    cases accepted
    exact ⟨filled, rfl⟩

/-- A list that is read as a set of sources starts with a key that is kept. -/
theorem gather_cons_sources (accepted : gather keys (raw :: rest) = .ok (.sources result)) :
    ¬ IsBlankKey raw ∧ ¬ NamesAll raw ∧ gather (insertKey (Text.trim raw) keys) rest = .ok (.sources result) := by
  by_cases blank : IsBlankKey raw
  · rw [gather_blank blank] at accepted
    cases accepted
  · by_cases names : NamesAll raw
    · rw [gather_namesAll names] at accepted
      cases accepted
    · rw [gather_plain blank names] at accepted
      exact ⟨blank, names, accepted⟩

end Reindexing.Scope

/-! ### Labels -/

namespace Reindexing.Scope

/-- Reading some list of keys gives this scope. -/
def IsAccepted (s : Scope) : Prop := ∃ keys, ofKeys keys = .ok s

/-- No key contains the comma that separates keys in a label. -/
def IsCommaFree : Scope → Prop
  | .all => True
  | .sources keys => ∀ key ∈ keys, ',' ∉ key.toList

theorem mem_insertKey {key k : String} {keys : List String} :
    k ∈ insertKey key keys ↔ k = key ∨ k ∈ keys := by
  induction keys with
  | nil => simp [insertKey]
  | cons head rest ih =>
    unfold insertKey
    split
    · next same => simp [same]
    · split
      · simp
      · simp only [List.mem_cons, ih]
        exact or_left_comm

/-- Keys that are gathered are not empty, and none of them reads `all`. -/
theorem gather_sources {keys raws result : List String}
    (before : ∀ key ∈ keys, Text.equalsIgnoringCase key keyword = false)
    (accepted : gather keys raws = .ok (.sources result)) :
    result ≠ [] ∧ ∀ key ∈ result, Text.equalsIgnoringCase key keyword = false := by
  induction raws generalizing keys with
  | nil =>
    obtain ⟨filled, rfl⟩ := gather_nil_sources accepted
    exact ⟨filled, before⟩
  | cons raw rest ih =>
    obtain ⟨_, single, accepted⟩ := gather_cons_sources accepted
    refine ih ?_ accepted
    intro key member
    rcases mem_insertKey.mp member with rfl | member
    · exact eq_false_of_ne_true single
    · exact before key member

theorem IsAccepted.keys {keys : List String} (accepted : IsAccepted (.sources keys)) :
    keys ≠ [] ∧ ∀ key ∈ keys, Text.equalsIgnoringCase key keyword = false := by
  obtain ⟨raws, read⟩ := accepted
  exact gather_sources (by simp) read

/-- The parts of a label are its keys. -/
theorem splitOn_join {keys : List String} (filled : keys ≠ []) (free : ∀ key ∈ keys, ',' ∉ key.toList) :
    (Text.join "," keys).toList.splitOn ',' = keys.map String.toList := by
  have comma : ",".toList = [','] := rfl
  rw [Text.join, String.toList_intercalate, comma]
  refine List.splitOn_intercalate ',' ?_ (by simpa using filled)
  intro part member
  obtain ⟨key, known, rfl⟩ := List.mem_map.mp member
  exact free key known

theorem eq_of_join {a b : List String} (filled_a : a ≠ []) (filled_b : b ≠ [])
    (free_a : ∀ key ∈ a, ',' ∉ key.toList) (free_b : ∀ key ∈ b, ',' ∉ key.toList)
    (same : Text.join "," a = Text.join "," b) : a = b := by
  have parts : a.map String.toList = b.map String.toList := by
    rw [← splitOn_join filled_a free_a, ← splitOn_join filled_b free_b, same]
  exact (List.map_inj_right fun _ _ => String.toList_inj.mp).mp parts

/-- The label of all sources is the label of no accepted set of keys. -/
theorem label_ne_keyword {keys : List String} (accepted : IsAccepted (.sources keys))
    (free : IsCommaFree (.sources keys)) : label (.sources keys) ≠ keyword := by
  intro same
  obtain ⟨filled, others⟩ := accepted.keys
  have single : Text.join "," [keyword] = keyword := String.intercalate_singleton
  have keys_eq : keys = [keyword] :=
    eq_of_join filled (by simp) free (by decide) (same.trans single.symm)
  rw [keys_eq] at others
  exact absurd (others keyword (List.mem_singleton_self _)) (by decide)

/-- Without commas in keys, the label of an accepted scope decides the scope. -/
theorem eq_of_label {a b : Scope} (accepted_a : a.IsAccepted) (accepted_b : b.IsAccepted)
    (free_a : a.IsCommaFree) (free_b : b.IsCommaFree) (same : a.label = b.label) : a = b := by
  cases a with
  | all =>
    cases b with
    | all => rfl
    | sources keys => exact absurd same.symm (label_ne_keyword accepted_b free_b)
  | sources keys =>
    cases b with
    | all => exact absurd same (label_ne_keyword accepted_a free_a)
    | sources others =>
      exact congrArg Scope.sources
        (eq_of_join accepted_a.keys.1 accepted_b.keys.1 free_a free_b same)

/-- Two sets of keys with one label: a key may contain the comma that separates keys. -/
example : ofKeys ["a,b"] = .ok (.sources ["a,b"]) ∧ ofKeys ["a", "b"] = .ok (.sources ["a", "b"]) ∧
    label (.sources ["a,b"]) = label (.sources ["a", "b"]) := ⟨rfl, rfl, by decide⟩

end Reindexing.Scope
