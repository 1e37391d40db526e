import Reindexing.Proofs.Queue.Calls

/-!
# Labels and identifiers of entries

The index by label and the entries are updated apart, but after any calls they
are mirrors of each other, also when claims are released long after their entries
were dropped. So what one look-up has found the next one finds again. Identifiers
are given to entries once: an entry that was dropped is gone for good, and not
even the release of a claim that remembers it brings it back.
-/
namespace Reindexing

/-- The index by label and the entries say the same. -/
structure Queue.Mirrored (q : Queue) : Prop where
  mirror : ∀ label id, q.idOfLabel? label = some id ↔ ∃ e, q.find? id = some e ∧ e.scope.label = label
  identified : ∀ e ∈ q.entries, q.find? e.id = some e
  single : ∀ e ∈ q.entries, ∀ f ∈ q.entries, e.scope.label = f.scope.label → e = f
  located : ∀ scope e, q.findByScope scope = some e ↔ e ∈ q.entries ∧ e.scope.label = scope.label
  /-- An operation that looks an entry up again after a change of it finds the changed entry. -/
  again : ∀ id e, q.find? id = some e → ∀ changed : QueueEntry, changed.id = e.id →
    (q.replace changed).find? id = some changed
  /-- The entry to which the index leads for a failure is always there. -/
  recorded : ∀ (failed : Task) (mode : RetryMode) (now : Instant) (fresh : EntryId) (draw : Nat),
    failed.status = .failed → ∃ after m, q.enqueue failed mode now fresh draw = .ok (after, m)

variable {b : Books} {id : EntryId}

namespace Books.Sound

theorem idOfLabel?_iff (sound : b.Sound) (label : String) (id : EntryId) :
    b.queue.idOfLabel? label = some id ↔ ∃ e, b.queue.find? id = some e ∧ e.scope.label = label := by
  constructor
  · exact sound.find?_of_label
  · rintro ⟨e, found, rfl⟩
    obtain ⟨member, rfl⟩ := Queue.mem_of_find? found
    exact sound.idOfLabel?_of_mem member

theorem eq_of_label (sound : b.Sound) {e f : QueueEntry} (he : e ∈ b.queue.entries)
    (hf : f ∈ b.queue.entries) (same : e.scope.label = f.scope.label) : e = f := by
  have id := sound.indexed.id_of_label (List.mem_map_of_mem he) (List.mem_map_of_mem hf) same
  exact Keyed.eq_of_key sound.unique_ids he hf id

theorem findByScope_iff (sound : b.Sound) (scope : Scope) (e : QueueEntry) :
    b.queue.findByScope scope = some e ↔ e ∈ b.queue.entries ∧ e.scope.label = scope.label := by
  constructor
  · intro found
    obtain ⟨id, known, there⟩ := Option.bind_eq_some_iff.mp found
    obtain ⟨f, found_id, label⟩ := sound.find?_of_label known
    obtain rfl := Option.some.inj (found_id.symm.trans there)
    exact ⟨(Queue.mem_of_find? there).1, label⟩
  · rintro ⟨member, label⟩
    exact Queue.findByScope_of_mem sound.indexed sound.unique member label.symm

theorem mirrored (sound : b.Sound) : b.queue.Mirrored where
  mirror := sound.idOfLabel?_iff
  identified _ member := sound.find?_of_mem member
  single _ he _ hf := sound.eq_of_label he hf
  located := sound.findByScope_iff
  again id e found changed same := Queue.find?_replace found same
  recorded failed mode now fresh draw status := by
    obtain ⟨after, m, accepted, _⟩ :=
      Queue.enqueue_records sound.indexed sound.unique status mode now fresh draw
    exact ⟨after, m, accepted⟩

end Books.Sound

/-- The identifier was given to an entry that is not there any more. -/
structure Books.Gone (b : Books) (id : EntryId) : Prop where
  given : id ∈ b.entryIds
  absent : b.queue.find? id = none

namespace Books

theorem Effect.gone {after : Books} (effect : b.Effect after) (before : b.Gone id) : after.Gone id where
  given := effect.ids_grow id before.given
  absent := by
    refine Queue.find?_eq_none.mpr fun s member same => ?_
    rcases effect.origin member with ⟨old, known, id_eq, _⟩ | ⟨unknown, _⟩
    · exact Queue.find?_eq_none.mp before.absent old known (id_eq.trans same)
    · exact unknown (same ▸ before.given)

theorem gone_of_drop (sound : b.Sound) {e : QueueEntry} (found : b.queue.find? id = some e) :
    Gone { b with queue := b.queue.drop e } id := by
  obtain ⟨member, rfl⟩ := Queue.mem_of_find? found
  exact ⟨sound.issued e.standing (List.mem_map_of_mem member), by rw [Queue.find?_drop, if_pos rfl]⟩

end Books

namespace Ledger

variable {l : Ledger} {calls : List Queue.Call}

theorem Leads.gone {start : Ledger} (run : Leads start calls l) (sound : start.Sound)
    (before : start.Gone id) : l.Gone id := by
  induction run with
  | refl => exact before
  | call c leads admits ih => exact (effect (leads.sound sound) admits).gone ih

theorem gone_of_remove (sound : l.Sound) {actor : Option String} {now : Instant} {queue : Queue}
    {m : Mutation} (removes : l.queue.remove id actor now = .ok (queue, m)) :
    (l.perform (.remove id actor now)).Gone id := by
  rw [Queue.remove_eq] at removes
  cases found : l.queue.find? id with
  | none => simp [found] at removes
  | some e =>
    simp only [perform, Queue.remove_eq, found]
    exact Books.gone_of_drop sound.toSound found

theorem gone_of_resolve (sound : l.Sound) {now : Instant} {queue : Queue} {m : Mutation}
    (resolves : l.queue.resolve id now = (queue, some m)) : (l.perform (.resolve id now)).Gone id := by
  cases found : l.queue.find? id with
  | none => simp [Queue.resolve, found] at resolves
  | some e =>
    simp only [perform, Queue.resolve, found]
    exact Books.gone_of_drop sound.toSound found

/-- Whatever calls were made, index and entries mirror each other, and an entry that is removed or
resolved never comes back, whatever calls follow and whatever claims of it are still out. -/
theorem entries_are_indexed_and_never_return {policy : CooldownPolicy} {maxAttempts : Nat}
    (run : Leads (start policy maxAttempts) calls l) :
    l.queue.Mirrored ∧
    (∀ id actor now queue m, l.queue.remove id actor now = .ok (queue, m) →
      ∀ later after, Leads (l.perform (.remove id actor now)) later after → after.queue.find? id = none) ∧
    (∀ id now queue m, l.queue.resolve id now = (queue, some m) →
      ∀ later after, Leads (l.perform (.resolve id now)) later after → after.queue.find? id = none) := by
  have sound := run.sound (sound_start policy maxAttempts)
  refine ⟨sound.mirrored, ?_, ?_⟩
  · intro id actor now queue m removes later after onward
    exact (onward.gone (sound.perform trivial) (gone_of_remove sound removes)).absent
  · intro id now queue m resolves later after onward
    exact (onward.gone (sound.perform trivial) (gone_of_resolve sound resolves)).absent

/-- An operator removes an entry that is claimed. The scope fails again, which opens another entry,
and only then is the claim released. -/
theorem removed_entry_stays_gone_after_a_late_release :
    ∃ (l after : Ledger) (later : List Queue.Call) (taken : Claim) (queue : Queue) (m : Mutation),
      taken ∈ l.claims ∧ taken.previous.id = ⟨.ofNat 1⟩ ∧
      l.queue.remove ⟨.ofNat 1⟩ none .epoch = .ok (queue, m) ∧
      Leads (l.perform (.remove ⟨.ofNat 1⟩ none .epoch)) later after ∧
      .release taken .epoch ∈ later ∧ after.queue.entries.map (·.id) = [⟨.ofNat 2⟩] ∧
      l.queue.Mirrored ∧ after.queue.find? ⟨.ofNat 1⟩ = none := by
  let failed (n : Nat) : Task := { Task.create ⟨.ofNat n⟩ .all "ops" .epoch with status := .failed }
  have opened : Leads (start (.ofSpans .zero .zero) 3) [] _ := .refl
  have recorded := opened.call (.enqueue (failed 1) .manual .epoch ⟨.ofNat 1⟩ 0) (by decide)
  have claimed := recorded.call (.claim ⟨.ofNat 1⟩ "ops" none false .epoch) trivial
  obtain ⟨mirrored, gone, _⟩ := entries_are_indexed_and_never_return claimed
  have removed : Leads ((((start (.ofSpans .zero .zero) 3).perform
      (.enqueue (failed 1) .manual .epoch ⟨.ofNat 1⟩ 0)).perform
        (.claim ⟨.ofNat 1⟩ "ops" none false .epoch)).perform (.remove ⟨.ofNat 1⟩ none .epoch)) [] _ := .refl
  have again := removed.call (.enqueue (failed 2) .manual .epoch ⟨.ofNat 2⟩ 0) (by decide)
  have released := again.call (.release _ .epoch) (List.mem_singleton_self _)
  refine ⟨_, _, _, _, _, _, List.mem_singleton_self _, rfl, rfl, released, ?_, rfl, mirrored, ?_⟩
  · exact List.mem_append_right _ (List.mem_singleton_self _)
  · exact gone _ none .epoch _ _ rfl _ _ released

end Ledger

end Reindexing
