import Mathlib.Data.List.DropRight
import Reindexing.Proofs.Scope.Labels

/-!
# Canonical scopes and their overlaps

The keys of an accepted scope are in canonical form: strictly increasing, trimmed,
not blank, and none of them reads `all`. Reading a canonical form gives it back,
so that an accepted scope is read from its own keys as itself.

`Overlap` says in terms of source keys what it means that two scopes overlap. Between
accepted scopes this is that they share a key, where every key belongs to all sources:
an accepted scope holds some key, so that all sources share one with each of them.
-/
namespace Reindexing

namespace Text

variable {p : Char → Bool} {cs : List Char}

theorem dropEnd_eq : dropEnd p cs = cs.rdropWhile p := rfl

/-- Dropping blanks at the end leaves no blank at the front where there was none. -/
theorem dropWhile_dropEnd (front : cs.dropWhile p = cs) : (dropEnd p cs).dropWhile p = dropEnd p cs := by
  rw [List.dropWhile_eq_self_iff] at *
  intro filled
  have starts : dropEnd p cs <+: cs := List.rdropWhile_prefix p cs
  have same := starts.getElem filled
  rw [same]
  exact front _

@[simp] theorem trim_trim (s : String) : trim (trim s) = trim s := by
  have front := dropWhile_dropEnd (List.dropWhile_idempotent isBlank s.toList)
  simp only [trim, String.toList_ofList, trimChars, trimStartChars]
  rw [front, dropEnd_eq, dropEnd_eq, List.rdropWhile_idempotent]

end Text

namespace Scope

/-- A key as it is kept: trimmed, not blank, and not standing for all sources. -/
structure IsKey (key : String) : Prop where
  trimmed : Text.trim key = key
  filled : key ≠ ""
  single : Text.equalsIgnoringCase key keyword = false

/-- A key whose trimmed form is valid does not end the reading. -/
theorem IsKey.plain {raw : String} (is : IsKey (Text.trim raw)) : ¬ IsBlankKey raw ∧ ¬ NamesAll raw :=
  ⟨is.filled, Bool.eq_false_iff.mp is.single⟩

/-- Keys as a scope keeps them. -/
structure AreKeys (keys : List String) : Prop where
  increasing : keys.Pairwise (· < ·)
  each : ∀ key ∈ keys, IsKey key

theorem insertKey_increasing {key : String} {keys : List String} (increasing : keys.Pairwise (· < ·)) :
    (insertKey key keys).Pairwise (· < ·) := by
  induction keys with
  | nil => exact List.pairwise_singleton _ _
  | cons k rest ih =>
    obtain ⟨least, increasing⟩ := List.pairwise_cons.mp increasing
    unfold insertKey
    split
    · exact List.pairwise_cons.mpr ⟨least, increasing⟩
    · next other =>
      split
      · next before =>
        refine List.pairwise_cons.mpr ⟨?_, List.pairwise_cons.mpr ⟨least, increasing⟩⟩
        rintro l member
        rcases List.mem_cons.mp member with rfl | member
        · exact before
        · exact String.lt_trans before (least l member)
      · next after =>
        have before : k < key :=
          String.not_le.mp fun below => other (String.le_antisymm below (String.not_lt.mp after))
        refine List.pairwise_cons.mpr ⟨?_, ih increasing⟩
        intro l member
        rcases mem_insertKey.mp member with rfl | member
        · exact before
        · exact least l member

/-- A key behind all others is put at the end. -/
theorem insertKey_last {key : String} {keys : List String} (last : ∀ k ∈ keys, k < key) :
    insertKey key keys = keys ++ [key] := by
  induction keys with
  | nil => rfl
  | cons k rest ih =>
    have before : k < key := last k List.mem_cons_self
    have other : key ≠ k := fun same => String.lt_irrefl k (same ▸ before)
    have behind : ¬ key < k := String.lt_asymm before
    rw [insertKey, if_neg other, if_neg behind, ih fun l member => last l (List.mem_cons_of_mem _ member)]
    rfl

theorem AreKeys.insertKey {key : String} {keys : List String} (are : AreKeys keys) (is : IsKey key) :
    AreKeys (insertKey key keys) where
  increasing := insertKey_increasing are.increasing
  each k member := by
    rcases mem_insertKey.mp member with rfl | member
    · exact is
    · exact are.each k member

/-- What is gathered is canonical. -/
theorem gather_areKeys {keys raws result : List String} (are : AreKeys keys)
    (accepted : gather keys raws = .ok (.sources result)) : AreKeys result := by
  induction raws generalizing keys with
  | nil =>
    obtain ⟨_, rfl⟩ := gather_nil_sources accepted
    exact are
  | cons raw rest ih =>
    obtain ⟨filled, single, accepted⟩ := gather_cons_sources accepted
    exact ih (are.insertKey ⟨Text.trim_trim raw, filled, eq_false_of_ne_true single⟩) accepted

/-- Gathering the rest of a canonical form completes it. -/
theorem gather_canonical {rest : List String} (keys : List String) (filled : keys ++ rest ≠ [])
    (are : AreKeys (keys ++ rest)) : gather keys rest = .ok (.sources (keys ++ rest)) := by
  induction rest generalizing keys with
  | nil =>
    rw [List.append_nil] at *
    exact if_neg filled
  | cons key rest ih =>
    have is := are.each key (List.mem_append_right _ List.mem_cons_self)
    have last : ∀ k ∈ keys, k < key := fun k member =>
      (List.pairwise_append.mp are.increasing).2.2 k member key List.mem_cons_self
    have shift : keys ++ key :: rest = (keys ++ [key]) ++ rest := by simp
    obtain ⟨notBlank, single⟩ : ¬ IsBlankKey key ∧ ¬ NamesAll key := IsKey.plain (by rwa [is.trimmed])
    rw [gather_plain notBlank single, is.trimmed, insertKey_last last]
    rw [shift] at filled are ⊢
    exact ih (keys ++ [key]) filled are

theorem IsAccepted.areKeys {keys : List String} (accepted : IsAccepted (.sources keys)) : AreKeys keys := by
  obtain ⟨raws, read⟩ := accepted
  exact gather_areKeys ⟨List.Pairwise.nil, nofun⟩ read

/-- The keys of an accepted scope are read as the scope. -/
theorem IsAccepted.ofKeys {keys : List String} (accepted : IsAccepted (.sources keys)) :
    ofKeys keys = .ok (.sources keys) :=
  gather_canonical [] accepted.keys.1 accepted.areKeys

end Scope

end Reindexing

/-! ### Overlaps -/

namespace Reindexing.Scope

/-- Whether a source belongs to a scope: every source belongs to `all`. -/
def Holds : Scope → String → Prop
  | .all, _ => True
  | .sources keys, key => key ∈ keys

/-- One side is everything, or some source key is on both sides. -/
def Overlap (a b : Scope) : Prop := a = .all ∨ b = .all ∨ ∃ key, a.Holds key ∧ b.Holds key

theorem overlaps_iff (a b : Scope) : a.overlaps b = true ↔ a.Overlap b := by
  cases a with
  | all => simp [overlaps, Overlap]
  | sources ka =>
    cases b with
    | all => simp [overlaps, Overlap]
    | sources kb => simp [overlaps, Overlap, Holds]

instance (a b : Scope) : Decidable (a.Overlap b) := decidable_of_iff _ (overlaps_iff a b)

theorem Overlap.symm {a b : Scope} (h : a.Overlap b) : b.Overlap a := by
  rcases h with h | h | ⟨key, ha, hb⟩
  · exact .inr (.inl h)
  · exact .inl h
  · exact .inr (.inr ⟨key, hb, ha⟩)

theorem overlaps_comm (a b : Scope) : a.overlaps b = b.overlaps a := by
  rw [Bool.eq_iff_iff, overlaps_iff, overlaps_iff]
  exact ⟨Overlap.symm, Overlap.symm⟩

namespace IsAccepted

variable {a b : Scope}

theorem holds_some (accepted : a.IsAccepted) : ∃ key, IsKey key ∧ a.Holds key := by
  cases a with
  | all => exact ⟨"a", ⟨by decide, by decide, by decide⟩, trivial⟩
  | sources keys =>
    have member := List.head_mem accepted.keys.1
    exact ⟨_, accepted.areKeys.each _ member, member⟩

/-- Accepted scopes overlap exactly if some source key belongs to both. -/
theorem overlaps_iff (accepted_a : a.IsAccepted) (accepted_b : b.IsAccepted) :
    a.overlaps b = true ↔ ∃ key, IsKey key ∧ a.Holds key ∧ b.Holds key := by
  rw [Scope.overlaps_iff]
  refine ⟨fun overlap => ?_, fun ⟨key, _, ofA, ofB⟩ => .inr (.inr ⟨key, ofA, ofB⟩)⟩
  rcases overlap with rfl | rfl | ⟨key, ofA, ofB⟩
  · obtain ⟨key, is, ofB⟩ := accepted_b.holds_some
    exact ⟨key, is, trivial, ofB⟩
  · obtain ⟨key, is, ofA⟩ := accepted_a.holds_some
    exact ⟨key, is, ofA, trivial⟩
  · -- The shared key is one of a list on either side, unless both sides are everything.
    cases a with
    | all =>
      obtain ⟨key, is, ofB⟩ := accepted_b.holds_some
      exact ⟨key, is, trivial, ofB⟩
    | sources keys => exact ⟨key, accepted_a.areKeys.each key ofA, ofA, ofB⟩

theorem overlaps_self (accepted : a.IsAccepted) : a.overlaps a = true := by
  obtain ⟨key, is, holds⟩ := accepted.holds_some
  exact (accepted.overlaps_iff accepted).mpr ⟨key, is, holds, holds⟩

end IsAccepted

end Reindexing.Scope
