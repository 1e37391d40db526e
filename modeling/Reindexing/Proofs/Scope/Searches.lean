import Reindexing.Proofs.Queue.Operations
import Reindexing.Proofs.Registry.Listing
import Reindexing.Proofs.Scope.Canonical
import Reindexing.Proofs.Text.Search

/-!
# Searching for a label

A label joins all keys of its scope, while a search looks for its text in one key after
the other. So the label of all sources and that of a single key find their scope, and
the label of several keys does not: it is longer than each of them. A task or an entry
with such a scope is found under its label only if the whole label happens to stand
in another of its texts. Each key on its own finds the scope.
-/
namespace Reindexing

/-- The text is found in another one, up to case and blanks around it. -/
def Text.IsFoundIn (query text : String) : Prop :=
  Text.contains (Text.lowercase text) (Text.lowercase (Text.trim query)) = true

instance (query text : String) : Decidable (Text.IsFoundIn query text) :=
  inferInstanceAs (Decidable (Text.contains _ _ = true))

namespace Scope

variable {s : Scope} {keys : List String} {key : String}

/-- All sources, or one source key. -/
def IsSingle (s : Scope) : Prop := s = .all ∨ ∃ key, s = .sources [key]

theorem join_cons (key next : String) (rest : List String) :
    (Text.join "," (key :: next :: rest)).toList =
      key.toList ++ [','] ++ (Text.join "," (next :: rest)).toList := by
  simp [Text.join, String.toList_intercalate, List.intercalate]

/-- A key stands in the label, with something around it if there is another key. -/
theorem exists_around (member : key ∈ keys) : ∃ front back,
    (Text.join "," keys).toList = front ++ key.toList ++ back ∧ (2 ≤ keys.length → front ++ back ≠ []) := by
  induction keys with
  | nil => cases member
  | cons first rest ih =>
    cases rest with
    | nil =>
      obtain rfl := List.mem_singleton.mp member
      refine ⟨[], [], by simp [Text.join], ?_⟩
      intro several
      simp at several
    | cons next rest =>
      rcases List.mem_cons.mp member with rfl | later
      · refine ⟨[], [','] ++ (Text.join "," (next :: rest)).toList, ?_, by simp⟩
        rw [join_cons]
        simp
      · obtain ⟨front, back, around, _⟩ := ih later
        refine ⟨first.toList ++ [','] ++ front, back, ?_, by simp⟩
        rw [join_cons, around]
        simp

theorem IsKey.chars (is : IsKey key) : Text.IsTrimmed key.toList ∧ key.toList ≠ [] :=
  ⟨Text.trim_eq_self_iff.mp is.trimmed, fun empty => is.filled (String.toList_eq_nil_iff.mp empty)⟩

/-- A label has no blanks around it, since no key has. -/
theorem label_trimmed (filled : keys ≠ []) (each : ∀ key ∈ keys, IsKey key) :
    Text.IsTrimmed (Text.join "," keys).toList ∧ (Text.join "," keys).toList ≠ [] := by
  induction keys with
  | nil => exact absurd rfl filled
  | cons first rest ih =>
    obtain ⟨trimmed, some_first⟩ := (each first List.mem_cons_self).chars
    cases rest with
    | nil =>
      have alone : Text.join "," [first] = first := String.intercalate_singleton
      rw [alone]
      exact ⟨trimmed, some_first⟩
    | cons next rest =>
      obtain ⟨behind, some_rest⟩ := ih (List.cons_ne_nil _ _) fun key member =>
        each key (List.mem_cons_of_mem _ member)
      rw [join_cons]
      exact ⟨trimmed.append behind some_first some_rest, by simp⟩

theorem IsAccepted.trim_label (accepted : s.IsAccepted) : Text.trim s.label = s.label ∧ s.label ≠ "" := by
  cases s with
  | all => exact ⟨by decide, by decide⟩
  | sources keys =>
    obtain ⟨trimmed, filled⟩ := label_trimmed accepted.keys.1 accepted.areKeys.each
    exact ⟨Text.trim_eq_self_iff.mpr trimmed, fun empty => filled (String.toList_eq_nil_iff.mpr empty)⟩

/-- The text that a search for the label looks for. -/
theorem IsAccepted.needle_ne_empty (accepted : s.IsAccepted) : Text.lowercase (Text.trim s.label) ≠ "" := by
  obtain ⟨trimmed, filled⟩ := accepted.trim_label
  rw [trimmed]
  exact Text.lowercase_ne_empty filled

/-- A label finds its scope exactly if it is that of all sources or of one key. -/
theorem IsAccepted.matchesText_label_iff (accepted : s.IsAccepted) :
    s.matchesText (Text.lowercase (Text.trim s.label)) = true ↔ s.IsSingle := by
  rw [accepted.trim_label.1]
  cases s with
  | all => exact iff_of_true (by decide) (.inl rfl)
  | sources keys =>
    simp only [matchesText, IsSingle, label, List.any_eq_true, reduceCtorEq, sources.injEq, false_or]
    constructor
    · rintro ⟨key, member, found⟩
      by_contra several
      have two : 2 ≤ keys.length := by
        cases keys with
        | nil => cases member
        | cons first rest =>
          cases rest with
          | nil => exact absurd ⟨first, rfl⟩ several
          | cons next rest => simp
      obtain ⟨front, back, around, more⟩ := exists_around member
      rw [Text.not_contains_of_around around (more two)] at found
      cases found
    · rintro ⟨key, rfl⟩
      refine ⟨key, List.mem_singleton_self key, ?_⟩
      simp [Text.join]

/-- Each key finds the scope. -/
theorem IsAccepted.matchesText_key (accepted : (sources keys).IsAccepted) (member : key ∈ keys) :
    (sources keys).matchesText (Text.lowercase (Text.trim key)) = true := by
  rw [(accepted.areKeys.each key member).trimmed, matchesText, List.any_eq_true]
  exact ⟨key, member, Text.contains_self _⟩

end Scope

/-- The label of the task's scope is that of all sources or of one key, or it stands in another text of
the task. -/
def Task.ShowsLabel (t : Task) : Prop :=
  t.scope.IsSingle ∨ Text.IsFoundIn t.scope.label t.actor ∨
    ∃ code, t.errorCode = some code ∧ Text.IsFoundIn t.scope.label code

/-- The label of the entry's scope is that of all sources or of one key, or it stands in another text of
the entry. -/
def QueueEntry.ShowsLabel (e : QueueEntry) : Prop :=
  e.scope.IsSingle ∨ (∃ error, e.lastError = some error ∧ Text.IsFoundIn e.scope.label error) ∨
    ∃ note, e.note = some note ∧ Text.IsFoundIn e.scope.label note

theorem Task.matchesText_label_iff {t : Task} (accepted : t.scope.IsAccepted) :
    t.matchesText t.scope.label = true ↔ t.ShowsLabel := by
  have filled := accepted.needle_ne_empty
  have scope := accepted.matchesText_label_iff
  rw [ShowsLabel, ← scope]
  simp only [matchesText, Bool.or_eq_true, beq_iff_eq, filled, false_or, Option.any_eq_true, Text.IsFoundIn]
  rw [or_assoc, or_left_comm]

theorem QueueEntry.matchesText_label_iff {e : QueueEntry} (accepted : e.scope.IsAccepted) :
    e.matchesText e.scope.label = true ↔ e.ShowsLabel := by
  have filled := accepted.needle_ne_empty
  have scope := accepted.matchesText_label_iff
  rw [ShowsLabel, ← scope]
  simp only [matchesText, Bool.or_eq_true, beq_iff_eq, filled, false_or, Option.any_eq_true, Text.IsFoundIn]
  rw [or_assoc]

/-- A task is found under each key of its scope. -/
theorem Task.matchesText_key {t : Task} (accepted : t.scope.IsAccepted) {keys : List String}
    (scope : t.scope = .sources keys) {key : String} (member : key ∈ keys) : t.matchesText key = true := by
  rw [scope] at accepted
  simp [matchesText, scope, accepted.matchesText_key member]

/-- An entry is found under each key of its scope. -/
theorem QueueEntry.matchesText_key {e : QueueEntry} (accepted : e.scope.IsAccepted) {keys : List String}
    (scope : e.scope = .sources keys) {key : String} (member : key ∈ keys) : e.matchesText key = true := by
  rw [scope] at accepted
  simp [matchesText, scope, accepted.matchesText_key member]

theorem Queue.mem_list {q : Queue} {filter : QueueFilter} {e : QueueEntry} :
    e ∈ q.list filter ↔ e ∈ q.entries ∧ filter.matches e = true := by
  simp [Queue.list, newestFirst]

/-- Tasks and entries are found under the label of their scope exactly if that is all sources or one key, or if
the label stands in another of their texts; the listings of history and queue that are filtered by the label
hold them exactly then. Under each single key of their scope they are always found. -/
theorem labels_find_scopes_of_one_key {r : Registry} (reachable : r.Reachable) (q : Queue) :
    (∀ t : Task, t.scope.IsAccepted → (t.matchesText t.scope.label = true ↔ t.ShowsLabel) ∧
      ∀ keys, t.scope = .sources keys → ∀ key ∈ keys, t.matchesText key = true) ∧
    (∀ e : QueueEntry, e.scope.IsAccepted → (e.matchesText e.scope.label = true ↔ e.ShowsLabel) ∧
      ∀ keys, e.scope = .sources keys → ∀ key ∈ keys, e.matchesText key = true) ∧
    (∀ t ∈ r.tasks, t.scope.IsAccepted → ∀ statuses, statuses = [] ∨ t.status ∈ statuses →
      (t ∈ (r.listHistory ⟨statuses, some t.scope.label⟩).map (·.task) ↔ t.ShowsLabel)) ∧
    ∀ e ∈ q.entries, e.scope.IsAccepted → ∀ statuses, statuses = [] ∨ e.status ∈ statuses →
      (e ∈ q.list ⟨statuses, some e.scope.label⟩ ↔ e.ShowsLabel) := by
  refine ⟨fun t accepted => ⟨Task.matchesText_label_iff accepted, ?_⟩,
    fun e accepted => ⟨QueueEntry.matchesText_label_iff accepted, ?_⟩, ?_, ?_⟩
  · intro keys scope key member
    exact Task.matchesText_key accepted scope member
  · intro keys scope key member
    exact QueueEntry.matchesText_key accepted scope member
  · intro t member accepted statuses permits
    have documented := reachable.documented
    have once := reachable.indexedOnce
    rw [← Task.matchesText_label_iff accepted]
    constructor
    · intro listed
      obtain ⟨g, shown, rfl⟩ := List.mem_map.mp listed
      obtain ⟨_, _, found⟩ := (documented.mem_listHistory once).mp shown
      exact found _ rfl
    · intro found
      obtain ⟨g, groups, rfl, _⟩ := documented.exists_groups member
      refine List.mem_map_of_mem ((documented.mem_listHistory once).mpr ⟨groups, permits, ?_⟩)
      intro query same
      obtain rfl := Option.some.inj same
      exact found
  · intro e member accepted statuses permits
    rw [← QueueEntry.matchesText_label_iff accepted, Queue.mem_list]
    simp [QueueFilter.matches, member, permits]

/-- The label of two keys is found only since the actor is called so, and for an entry since its note names
it; the key `news` finds the task anyway. -/
theorem label_found_in_the_actor :
    ∃ (r : Registry) (q : Queue) (t : Task) (e : QueueEntry), r.Reachable ∧ t ∈ r.tasks ∧ e ∈ q.entries ∧
      t.scope = .sources ["filings", "news"] ∧ e.scope = t.scope ∧ t.scope.IsAccepted ∧
      t ∈ (r.listHistory ⟨[.queued], some t.scope.label⟩).map (·.task) ∧
      e ∈ q.list ⟨[], some e.scope.label⟩ ∧ t.matchesText "news" = true := by
  let t := Registry.newTask ⟨.ofNat 1⟩ ⟨.sources ["filings", "news"], "Desk of Filings,News",
    some "about filings,news", none, none⟩ .epoch
  let e := (Queue.empty (.ofSpans .zero .zero) 3).newEntry ⟨.ofNat 1⟩ t .auto .epoch 0
  let q := (Queue.empty (.ofSpans .zero .zero) 3).add e
  have r₀ : Registry.Reachable .empty := .refl
  have r₁ := Registry.Leads.call (.submit ⟨.ofNat 1⟩ ⟨.sources ["filings", "news"], "Desk of Filings,News",
    some "about filings,news", none, none⟩ .epoch) r₀ (by decide)
  have accepted : Scope.IsAccepted (.sources ["filings", "news"]) := ⟨["news", " filings "], by decide⟩
  obtain ⟨tasks, _, listed, queued⟩ := labels_find_scopes_of_one_key r₁ q
  have task_shows : t.ShowsLabel := .inr (.inl (by decide +kernel))
  have entry_shows : e.ShowsLabel := .inr (.inr ⟨"about filings,news", by decide +kernel, by decide +kernel⟩)
  refine ⟨_, q, t, e, r₁, List.mem_singleton_self _, List.mem_singleton_self _, rfl, rfl, accepted, ?_, ?_, ?_⟩
  · exact (listed t (List.mem_singleton_self _) accepted [.queued] (.inr (by decide))).mpr task_shows
  · exact (queued e (List.mem_singleton_self _) accepted [] (.inl rfl)).mpr entry_shows
  · exact (tasks t accepted).2 _ rfl "news" (by decide)

/-- Neither a task nor an entry for two sources is found under the label of its scope. -/
theorem label_of_two_keys_finds_nothing :
    (¬ ∀ t : Task, t.scope.IsAccepted → t.matchesText t.scope.label = true) ∧
    ¬ ∀ e : QueueEntry, e.scope.IsAccepted → e.matchesText e.scope.label = true := by
  have accepted : Scope.IsAccepted (.sources ["filings", "news"]) := ⟨["filings", "news"], by decide⟩
  let task := Task.create ⟨.ofNat 1⟩ (.sources ["filings", "news"]) "ops" .epoch
  constructor
  · intro finds
    exact absurd (finds task accepted) (by decide +kernel)
  · intro finds
    let entry := (Queue.empty (.ofSpans .zero .zero) 3).newEntry ⟨.ofNat 1⟩ task .auto .epoch 0
    exact absurd (finds entry accepted) (by decide +kernel)

end Reindexing
