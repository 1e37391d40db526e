import Mathlib.Logic.Equiv.Basic
import Reindexing.Proofs.Cooldown
import Reindexing.Proofs.Queue.Identity

/-!
# Settlement of outcomes

What the end of a task leaves of the queue depends on nothing but the entry under
the label of its scope: the outcome opens it, updates it or resolves it, and every
other entry stays. `settled` says so in one step, whichever way the outcome took.
Without jitter two outcomes under different labels can then be settled in either
order; all that differs is which of the next identifiers each new entry gets.
-/
namespace Reindexing

namespace QueueEntry

/-- The entry under another identifier. -/
def renamed (ρ : EntryId → EntryId) (e : QueueEntry) : QueueEntry := { e with id := ρ e.id }

theorem renamed_of_fixed {ρ : EntryId → EntryId} {e : QueueEntry} (fixed : ρ e.id = e.id) : e.renamed ρ = e := by
  rw [renamed, fixed]

theorem renamed_injective {ρ : EntryId → EntryId} (injective : ρ.Injective) : (renamed ρ).Injective := by
  intro e f same
  have id : e.id = f.id := injective (congrArg QueueEntry.id same)
  cases e
  cases f
  simp_all [renamed]

end QueueEntry

namespace Queue

variable {q r : Queue} {done : Task} {now : Instant} {fresh other : EntryId} {draw redrawn : Nat}

/-- What an outcome leaves of the entry of its label: a failure opens the entry or updates it, and a
retry that does not fail resolves it. -/
def entryAfter (q : Queue) (done : Task) (now : Instant) (fresh : EntryId) (draw : Nat) :
    Option QueueEntry → Option QueueEntry
  | none => if done.status = .failed then some (q.newEntry fresh done .auto now draw) else none
  | some e =>
    if done.retryOf = some e.id then
      if done.status = .failed then some (q.retryFailed e done now draw) else none
    else if done.status = .failed then some (q.repeatedFailure e done now draw)
    else some e

/-- The queue after an outcome. Only a failure forms a cooldown. -/
def settled (q : Queue) (done : Task) (now : Instant) (fresh : EntryId) (draw : Nat) : Queue :=
  let found := q.findByScope done.scope
  let left := q.entryAfter done now fresh draw found
  let noted := q.noteOverflow (done.status = .failed && left.any fun e => q.overflows e draw)
  match found, left with
  | none, none => noted
  | none, some new => noted.add new
  | some old, none => noted.drop old
  | some _, some new => noted.replace new

/-- Whether an outcome opens an entry. -/
def opensFor (q : Queue) (done : Task) : Bool :=
  done.status = .failed && (q.findByScope done.scope).isNone

theorem entryAfter_keeps {e new : QueueEntry}
    (left : q.entryAfter done now fresh draw (some e) = some new) : new.id = e.id ∧ new.scope = e.scope := by
  simp only [entryAfter] at left
  split at left
  · split at left <;> cases left
    exact ⟨rfl, rfl⟩
  · split at left <;> cases left <;> exact ⟨rfl, rfl⟩

/-- The entry that an outcome leaves has the label of the outcome. -/
theorem label_entryAfter {found : Option QueueEntry} {new : QueueEntry}
    (labelled : ∀ e, found = some e → e.scope.label = done.scope.label)
    (left : q.entryAfter done now fresh draw found = some new) : new.scope.label = done.scope.label := by
  cases found with
  | none =>
    simp only [entryAfter] at left
    split at left <;> cases left
    rfl
  | some e => rw [(entryAfter_keeps left).2, labelled e rfl]

theorem settled_fixed (q : Queue) (done : Task) (now : Instant) (fresh : EntryId) (draw : Nat) :
    (q.settled done now fresh draw).policy = q.policy ∧
      (q.settled done now fresh draw).maxAttempts = q.maxAttempts := by
  unfold settled
  dsimp only
  split <;> exact ⟨rfl, rfl⟩

/-! ### Other names and other draws -/

theorem cooldownAfter_congr (plain : ¬ (0.0 : Float) < q.policy.jitter) (policy : r.policy = q.policy)
    (e : QueueEntry) (start : Instant) : r.cooldownAfter e start redrawn = q.cooldownAfter e start draw := by
  simp only [cooldownAfter, policy, CooldownPolicy.keptUntil_of_no_jitter plain]

/-- Without jitter, what an outcome leaves of an entry depends on the policy and the budget alone, and a
new entry on its identifier as well. -/
theorem entryAfter_renamed (plain : ¬ (0.0 : Float) < q.policy.jitter) (policy : r.policy = q.policy)
    (budget : r.maxAttempts = q.maxAttempts) {ρ : EntryId → EntryId} {found : Option QueueEntry}
    (fixed : ∀ e, found = some e → ρ e.id = e.id)
    (opened : found = none → done.status = .failed → ρ fresh = other) :
    r.entryAfter done now other redrawn found =
      (q.entryAfter done now fresh draw found).map (·.renamed ρ) := by
  have cools : ∀ e start, r.cooldownAfter e start redrawn = q.cooldownAfter e start draw :=
    cooldownAfter_congr plain policy
  cases found with
  | none =>
    by_cases failed : done.status = .failed
    · simp only [entryAfter, failed, if_true, Option.map_some, newEntry, QueueEntry.renamed, cools, budget,
        opened rfl failed]
      rfl
    · simp only [entryAfter, failed, if_false, Option.map_none]
  | some e =>
    have same := fixed e rfl
    by_cases retried : done.retryOf = some e.id <;> by_cases failed : done.status = .failed
    · simp only [entryAfter, retried, failed, if_true, Option.map_some, retryFailed, QueueEntry.renamed, cools]
      simp only [QueueEntry.touch, same]
    · simp only [entryAfter, retried, failed, if_true, if_false, Option.map_none]
    · simp only [entryAfter, retried, failed, if_true, if_false, Option.map_some, repeatedFailure,
        QueueEntry.renamed, cools]
      simp only [QueueEntry.touch, same]
    · simp only [entryAfter, retried, failed, if_false, Option.map_some, QueueEntry.renamed_of_fixed same]

end Queue

/-! ### Entries after an outcome -/

namespace Books.Sound

variable {b : Books} {done : Task} {now : Instant} {fresh : EntryId} {draw : Nat}

theorem label_left (sound : b.Sound) {x : QueueEntry}
    (left : b.queue.entryAfter done now fresh draw (b.queue.findByScope done.scope) = some x) :
    x.scope.label = done.scope.label :=
  Queue.label_entryAfter (fun e found => ((sound.findByScope_iff _ e).mp found).2) left

/-- Only the entry under the label of an outcome is touched. -/
theorem mem_settled (sound : b.Sound) {x : QueueEntry} :
    x ∈ (b.queue.settled done now fresh draw).entries ↔
      b.queue.entryAfter done now fresh draw (b.queue.findByScope done.scope) = some x ∨
        x ∈ b.queue.entries ∧ x.scope.label ≠ done.scope.label := by
  cases found : b.queue.findByScope done.scope with
  | none =>
    have apart : ∀ y ∈ b.queue.entries, y.scope.label ≠ done.scope.label := by
      intro y member label
      have located := (sound.findByScope_iff _ _).mpr ⟨member, label⟩
      rw [found] at located
      cases located
    cases left : b.queue.entryAfter done now fresh draw none with
    | none =>
      simp only [Queue.settled, found, left, reduceCtorEq, false_or]
      exact ⟨fun member => ⟨member, apart x member⟩, And.left⟩
    | some new =>
      simp only [Queue.settled, found, left, Queue.add, List.mem_append, List.mem_singleton, Option.some.injEq]
      constructor
      · rintro (member | rfl)
        · exact .inr ⟨member, apart x member⟩
        · exact .inl rfl
      · rintro (rfl | ⟨member, _⟩)
        · exact .inr rfl
        · exact .inl member
  | some old =>
    obtain ⟨member, label⟩ := (sound.findByScope_iff _ _).mp found
    have same : ∀ y ∈ b.queue.entries, y.id = old.id ↔ y.scope.label = done.scope.label := by
      intro y known
      constructor
      · intro id
        rw [Keyed.eq_of_key sound.unique_ids known member id, label]
      · intro label_y
        rw [sound.eq_of_label known member (label_y.trans label.symm)]
    cases left : b.queue.entryAfter done now fresh draw (some old) with
    | none =>
      simp only [Queue.settled, found, left, Queue.drop, List.mem_filter, reduceCtorEq, false_or,
        decide_eq_true_eq]
      exact and_congr_right fun known => not_congr (same x known)
    | some new =>
      obtain ⟨id, _⟩ := Queue.entryAfter_keeps left
      simp only [Queue.settled, found, left, Option.some.injEq]
      refine Keyed.mem_replaceBy.trans (or_congr ?_ ?_)
      · constructor
        · rintro ⟨rfl, _⟩
          rfl
        · rintro rfl
          exact ⟨rfl, old, member, id.symm⟩
      · rw [id]
        exact and_congr_right fun known => not_congr (same x known)

end Books.Sound

/-- Books that an outcome leads to. -/
structure Books.Settles (b : Books) (done : Task) (now : Instant) (fresh : EntryId) (draw : Nat)
    (after : Books) : Prop where
  sound : after.Sound
  queue : after.queue = b.queue.settled done now fresh draw

/-- The same entries under the same labels, but for the names of identifiers. -/
structure Queue.Renames (ρ : EntryId → EntryId) (q r : Queue) : Prop where
  entries : (q.entries.map (·.renamed ρ)).Perm r.entries
  located : ∀ scope, r.findByScope scope = (q.findByScope scope).map (·.renamed ρ)

/-- Two identifiers that are not in use can be swapped where both ways to go on use both of them. -/
theorem EntryId.exists_renaming (ids : List EntryId) (next second : EntryId) (opens again : Bool)
    (unused : opens = true → again = true → next ∉ ids ∧ second ∉ ids) :
    ∃ ρ : Equiv.Perm EntryId, (∀ id ∈ ids, ρ id = id) ∧
      (opens = true → ρ next = if again then second else next) ∧
      (again = true → ρ (if opens then second else next) = next) := by
  by_cases both : opens = true ∧ again = true
  · obtain ⟨rfl, rfl⟩ := both
    obtain ⟨next_unused, second_unused⟩ := unused rfl rfl
    refine ⟨Equiv.swap next second, fun id member => ?_, fun _ => Equiv.swap_apply_left _ _,
      fun _ => Equiv.swap_apply_right _ _⟩
    exact Equiv.swap_apply_of_ne_of_ne (fun same => next_unused (same ▸ member))
      fun same => second_unused (same ▸ member)
  · refine ⟨Equiv.refl _, fun _ _ => rfl, fun first => ?_, fun second => ?_⟩
    · have alone : again = false := by simpa [first] using both
      rw [alone]
      rfl
    · have alone : opens = false := by simpa [second] using both
      rw [alone]
      rfl

namespace Books

variable {b first second both reversed : Books} {done t u : Task} {now : Instant}
  {fresh x₁ x₂ y₁ y₂ : EntryId} {draw d₁ d₂ d₃ d₄ : Nat} {ρ : EntryId → EntryId}

/-- Other labels lead where they led before. -/
theorem Settles.findByScope_of_ne (settles : b.Settles done now fresh draw first) (sound : b.Sound)
    {scope : Scope} (apart : scope.label ≠ done.scope.label) :
    first.queue.findByScope scope = b.queue.findByScope scope := by
  ext x
  rw [settles.sound.findByScope_iff, sound.findByScope_iff, settles.queue, sound.mem_settled]
  constructor
  · rintro ⟨left | ⟨member, _⟩, label⟩
    · exact absurd (label.symm.trans (sound.label_left left)) apart
    · exact ⟨member, label⟩
  · rintro ⟨member, label⟩
    exact ⟨.inr ⟨member, label ▸ apart⟩, label⟩

/-- The entries after two outcomes under different labels: what each leaves of its own entry, and the rest. -/
theorem Settles.mem_settled (settles : b.Settles t now x₁ d₁ first) (sound : b.Sound)
    (apart : t.scope.label ≠ u.scope.label) {x : QueueEntry} :
    x ∈ (first.queue.settled u now y₁ d₂).entries ↔
      b.queue.entryAfter t now x₁ d₁ (b.queue.findByScope t.scope) = some x ∨
      first.queue.entryAfter u now y₁ d₂ (b.queue.findByScope u.scope) = some x ∨
      x ∈ b.queue.entries ∧ x.scope.label ≠ t.scope.label ∧ x.scope.label ≠ u.scope.label := by
  rw [settles.sound.mem_settled, settles.findByScope_of_ne sound (Ne.symm apart), settles.queue,
    sound.mem_settled]
  have own : b.queue.entryAfter t now x₁ d₁ (b.queue.findByScope t.scope) = some x →
      x.scope.label ≠ u.scope.label := by
    intro left
    rw [sound.label_left left]
    exact apart
  tauto

/-- Whether an outcome opens an entry does not depend on outcomes under other labels. -/
theorem Settles.opensFor (settles : b.Settles t now x₁ d₁ first) (sound : b.Sound)
    (apart : t.scope.label ≠ u.scope.label) : first.queue.opensFor u = b.queue.opensFor u := by
  rw [Queue.opensFor, Queue.opensFor, settles.findByScope_of_ne sound (Ne.symm apart)]

/-- Books with the same entries up to names lead to the same entries up to names. -/
theorem renames_of_perm (sound : first.Sound) (other : second.Sound)
    (same : (first.queue.entries.map (·.renamed ρ)).Perm second.queue.entries) :
    first.queue.Renames ρ second.queue where
  entries := same
  located := by
    intro scope
    ext y
    rw [other.findByScope_iff, ← same.mem_iff, List.mem_map, Option.map_eq_some_iff]
    constructor
    · rintro ⟨⟨x, member, rfl⟩, label⟩
      exact ⟨x, (sound.findByScope_iff _ _).mpr ⟨member, label⟩, rfl⟩
    · rintro ⟨x, found, rfl⟩
      obtain ⟨member, label⟩ := (sound.findByScope_iff _ _).mp found
      exact ⟨⟨x, member, rfl⟩, label⟩

/-- Outcomes under different labels are settled in either order, if each opens its entry under the name
that the other order gives it. -/
theorem settled_comm (sound : b.Sound) (plain : ¬ (0.0 : Float) < b.queue.policy.jitter)
    (apart : t.scope.label ≠ u.scope.label)
    (settles_t : b.Settles t now x₁ d₁ first) (then_u : first.Settles u now y₁ d₂ both)
    (settles_u : b.Settles u now y₂ d₃ second) (then_t : second.Settles t now x₂ d₄ reversed)
    (injective : ρ.Injective) (fixed : ∀ id ∈ b.entryIds, ρ id = id)
    (opened_t : b.queue.opensFor t = true → ρ x₁ = x₂) (opened_u : b.queue.opensFor u = true → ρ y₁ = y₂) :
    both.queue.Renames ρ reversed.queue := by
  have known : ∀ e ∈ b.queue.entries, ρ e.id = e.id := fun e member =>
    fixed e.id (sound.issued e.standing (List.mem_map_of_mem member))
  have found : ∀ scope e, b.queue.findByScope scope = some e → ρ e.id = e.id := fun scope e there =>
    known e ((sound.findByScope_iff _ _).mp there).1
  have fixed_first := b.queue.settled_fixed t now x₁ d₁
  have fixed_second := b.queue.settled_fixed u now y₂ d₃
  rw [← settles_t.queue] at fixed_first
  rw [← settles_u.queue] at fixed_second
  -- Both orders leave the same of each entry, since neither outcome touches the entry of the other.
  have left_t : second.queue.entryAfter t now x₂ d₄ (b.queue.findByScope t.scope) =
      (b.queue.entryAfter t now x₁ d₁ (b.queue.findByScope t.scope)).map (·.renamed ρ) := by
    refine Queue.entryAfter_renamed plain fixed_second.1 fixed_second.2 (found t.scope) fun absent failed => ?_
    exact opened_t (by simp [Queue.opensFor, absent, failed])
  have left_u : b.queue.entryAfter u now y₂ d₃ (b.queue.findByScope u.scope) =
      (first.queue.entryAfter u now y₁ d₂ (b.queue.findByScope u.scope)).map (·.renamed ρ) := by
    refine Queue.entryAfter_renamed (by rwa [fixed_first.1]) fixed_first.1.symm fixed_first.2.symm
      (found u.scope) fun absent failed => ?_
    exact opened_u (by simp [Queue.opensFor, absent, failed])
  have nodup : (both.queue.entries.map (·.renamed ρ)).Nodup :=
    (List.Nodup.of_map _ then_u.sound.unique_ids).map (QueueEntry.renamed_injective injective)
  have nodup_reversed : reversed.queue.entries.Nodup := .of_map _ then_t.sound.unique_ids
  refine renames_of_perm then_u.sound then_t.sound ((List.perm_ext_iff_of_nodup nodup nodup_reversed).mpr
    fun y => ?_)
  rw [then_u.queue, then_t.queue, List.mem_map, settles_u.mem_settled sound (Ne.symm apart), left_t, left_u]
  simp only [settles_t.mem_settled sound apart, Option.map_eq_some_iff]
  constructor
  · rintro ⟨x, left | left | ⟨member, not_t, not_u⟩, rfl⟩
    · exact .inr (.inl ⟨x, left, rfl⟩)
    · exact .inl ⟨x, left, rfl⟩
    · rw [QueueEntry.renamed_of_fixed (known x member)]
      exact .inr (.inr ⟨member, not_u, not_t⟩)
  · rintro (⟨x, left, rfl⟩ | ⟨x, left, rfl⟩ | ⟨member, not_u, not_t⟩)
    · exact ⟨x, .inr (.inl left), rfl⟩
    · exact ⟨x, .inl left, rfl⟩
    · exact ⟨y, .inr (.inr ⟨member, not_t, not_u⟩), QueueEntry.renamed_of_fixed (known y member)⟩

end Books

end Reindexing
