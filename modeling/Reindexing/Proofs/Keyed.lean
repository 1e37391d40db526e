import Mathlib.Data.List.Nodup
import Mathlib.Tactic.Common

/-!
# Lists with identifiers

Tasks and queue entries stand in lists in which no two elements have the same
identifier. Looking up, replacing and dropping by identifier then touch one
element at most. `replaceBy` is the shape that the registry and the queue both
use to put a changed element in the place of the old one; the counting lemma is
what ties an invariant about numbers of elements to such a change.
-/
namespace Reindexing.Keyed

variable {α κ : Type} [DecidableEq κ] {key : α → κ} {l : List α}

/-- The element with the key of `a` is replaced by `a`. -/
def replaceBy (key : α → κ) (a : α) (l : List α) : List α :=
  l.map fun b => if key b = key a then a else b

theorem mem_of_find? {k : κ} {a : α} (found : l.find? (fun b => key b = k) = some a) :
    a ∈ l ∧ key a = k :=
  ⟨List.mem_of_find?_eq_some found, by simpa using List.find?_some found⟩

theorem find?_of_mem (unique : (l.map key).Nodup) {a : α} (member : a ∈ l) :
    l.find? (fun b => key b = key a) = some a := by
  induction l with
  | nil => simp at member
  | cons b rest ih =>
    simp only [List.map_cons, List.nodup_cons] at unique
    by_cases same : key b = key a
    · have head : a = b := by
        rcases List.mem_cons.mp member with eq | later
        · exact eq
        · exact absurd (same ▸ List.mem_map_of_mem later) unique.1
      simp [head]
    · have later : a ∈ rest := by
        rcases List.mem_cons.mp member with eq | later
        · exact absurd (by rw [eq]) same
        · exact later
      simpa [same] using ih unique.2 later

theorem find?_eq_none {k : κ} :
    l.find? (fun b => key b = k) = none ↔ ∀ b ∈ l, key b ≠ k := by
  simp [List.find?_eq_none]

omit [DecidableEq κ] in
theorem eq_of_key (unique : (l.map key).Nodup) {a b : α} (ha : a ∈ l) (hb : b ∈ l)
    (same : key a = key b) : a = b :=
  List.inj_on_of_nodup_map unique ha hb same

omit [DecidableEq κ] in
/-- An identifier that comes after different ones is none of them. -/
theorem not_mem_of_nodup_append {ids : List κ} {k : κ} (distinct : (ids ++ [k]).Nodup) : k ∉ ids := by
  intro member
  exact (List.nodup_append.mp distinct).2.2 k member k (List.mem_singleton_self k) rfl

omit [DecidableEq κ] in
/-- An element with a key of its own can be added. -/
theorem nodup_map_append (unique : (l.map key).Nodup) {a : α} (fresh : ∀ b ∈ l, key b ≠ key a) :
    ((l ++ [a]).map key).Nodup := by
  rw [List.map_append]
  refine List.nodup_append.mpr ⟨unique, by simp, ?_⟩
  intro k old k' new same
  obtain ⟨b, member, rfl⟩ := List.mem_map.mp old
  exact fresh b member (same.trans (List.mem_singleton.mp new))

theorem mem_replaceBy {a x : α} :
    x ∈ replaceBy key a l ↔ (x = a ∧ ∃ b ∈ l, key b = key a) ∨ (x ∈ l ∧ key x ≠ key a) := by
  simp only [replaceBy, List.mem_map]
  constructor
  · rintro ⟨b, hb, rfl⟩
    by_cases same : key b = key a
    · exact .inl ⟨by simp [same], b, hb, same⟩
    · exact .inr ⟨by simpa [same] using hb, by simp [same]⟩
  · rintro (⟨rfl, b, hb, same⟩ | ⟨hx, other⟩)
    · exact ⟨b, hb, by simp [same]⟩
    · exact ⟨x, hx, by simp [other]⟩

@[simp] theorem map_key_replaceBy (a : α) : (replaceBy key a l).map key = l.map key := by
  rw [replaceBy, List.map_map]
  apply List.map_congr_left
  intro b _
  by_cases same : key b = key a <;> simp [same]

/-- Without the key, nothing is replaced. -/
theorem replaceBy_of_absent {a : α} (absent : ∀ b ∈ l, key b ≠ key a) : replaceBy key a l = l := by
  rw [replaceBy, List.map_congr_left (g := id) (fun b hb => by simp [absent b hb]), List.map_id]

/-- Elements with different keys are replaced in either order. -/
theorem replaceBy_comm {a b : α} (other : key a ≠ key b) (l : List α) :
    replaceBy key b (replaceBy key a l) = replaceBy key a (replaceBy key b l) := by
  simp only [replaceBy, List.map_map]
  apply List.map_congr_left
  intro c _
  by_cases left : key c = key a
  · simp [left, other]
  · by_cases right : key c = key b <;> simp [left, right, Ne.symm other]

/-- An element that is there already replaces nothing. -/
theorem replaceBy_self (unique : (l.map key).Nodup) {a : α} (member : a ∈ l) :
    replaceBy key a l = l := by
  conv_rhs => rw [← List.map_id l]
  apply List.map_congr_left
  intro b hb
  by_cases same : key b = key a
  · simp [eq_of_key unique hb member same]
  · simp [same]

/-- A replacement moves one element from the count of what it was to the count
of what it is now. -/
theorem countP_replaceBy (unique : (l.map key).Nodup) {a b : α} (member : b ∈ l)
    (same : key b = key a) (p : α → Bool) :
    (replaceBy key a l).countP p + (if p b then 1 else 0) = l.countP p + (if p a then 1 else 0) := by
  induction l with
  | nil => simp at member
  | cons c rest ih =>
    simp only [List.map_cons, List.nodup_cons] at unique
    by_cases head : key c = key a
    · have eq : b = c := by
        rcases List.mem_cons.mp member with eq | later
        · exact eq
        · have clash : key c ∈ rest.map key := (head.trans same.symm) ▸ List.mem_map_of_mem later
          exact absurd clash unique.1
      have rest_same : replaceBy key a rest = rest := by
        apply replaceBy_of_absent
        intro d hd eqKey
        exact unique.1 ((head.trans eqKey.symm) ▸ List.mem_map_of_mem hd)
      subst eq
      simp only [replaceBy, List.map_cons, head, if_true, List.countP_cons]
      rw [← replaceBy, rest_same]
      omega
    · have later : b ∈ rest := by
        rcases List.mem_cons.mp member with eq | later
        · exact absurd (eq ▸ same) head
        · exact later
      have tail := ih unique.2 later
      simp only [replaceBy, List.map_cons, head, if_false, List.countP_cons] at tail ⊢
      omega

omit [DecidableEq κ] in
/-- What is counted once is unique. -/
theorem eq_of_countP_le_one {p : α → Bool} (few : l.countP p ≤ 1) {a b : α} (ha : a ∈ l) (hb : b ∈ l)
    (pa : p a = true) (pb : p b = true) : a = b := by
  rw [List.countP_eq_length_filter] at few
  have ha : a ∈ l.filter p := List.mem_filter.mpr ⟨ha, pa⟩
  have hb : b ∈ l.filter p := List.mem_filter.mpr ⟨hb, pb⟩
  obtain ⟨x, only⟩ : ∃ x, l.filter p = [x] := by
    have some_element := List.length_pos_of_mem ha
    exact List.length_eq_one_iff.mp (by omega)
  rw [only] at ha hb
  rw [List.mem_singleton.mp ha, List.mem_singleton.mp hb]

end Reindexing.Keyed
