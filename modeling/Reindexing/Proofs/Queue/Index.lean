import Reindexing.Proofs.Queue.Operations

/-!
# The index by label

`Indexed` says that the index of the queue mirrors its entries: a label leads to
exactly the entry whose scope has that label, and there is one at most. Putting a
changed entry in the place of one with its scope, adding an entry under a new
label and dropping an entry keep it. A failure that is recorded is therefore
found again under the label of its scope, however it was routed.
-/
namespace Reindexing

structure Indexed (labels : List (String × EntryId)) (standings : List Standing) : Prop where
  single : (labels.map (·.1)).Nodup
  mirror : ∀ label id, (label, id) ∈ labels ↔ ∃ e ∈ standings, e.id = id ∧ e.scope.label = label

namespace Indexed

variable {labels : List (String × EntryId)} {standings : List Standing}

theorem empty : Indexed [] [] := by
  constructor <;> simp

theorem mem_of_standing (indexed : Indexed labels standings) {e : Standing} (member : e ∈ standings) :
    (e.scope.label, e.id) ∈ labels :=
  (indexed.mirror e.scope.label e.id).mpr ⟨e, member, rfl, rfl⟩

/-- Entries with one label are the same entry. -/
theorem id_of_label (indexed : Indexed labels standings) {e f : Standing} (he : e ∈ standings)
    (hf : f ∈ standings) (same : e.scope.label = f.scope.label) : e.id = f.id :=
  congrArg Prod.snd (Keyed.eq_of_key indexed.single (indexed.mem_of_standing he)
    (indexed.mem_of_standing hf) same)

theorem settle (indexed : Indexed labels standings) {old : Standing} (new : Standing)
    (member : old ∈ standings) (unique : (standings.map (·.id)).Nodup) (id : new.id = old.id)
    (scope : new.scope.label = old.scope.label) :
    Indexed labels (Keyed.replaceBy (·.id) new standings) := by
  refine ⟨indexed.single, fun label entry => (indexed.mirror label entry).trans ?_⟩
  constructor
  · rintro ⟨e, he, rfl, rfl⟩
    by_cases same : e.id = old.id
    · obtain rfl := Keyed.eq_of_key unique he member same
      exact ⟨new, Keyed.mem_replaceBy.mpr (.inl ⟨rfl, e, he, id.symm⟩), id, scope⟩
    · have other : e.id ≠ new.id := fun h => same (h.trans id)
      exact ⟨e, Keyed.mem_replaceBy.mpr (.inr ⟨he, other⟩), rfl, rfl⟩
  · rintro ⟨e, he, rfl, rfl⟩
    rcases Keyed.mem_replaceBy.mp he with ⟨rfl, _⟩ | ⟨he, _⟩
    · exact ⟨old, member, id.symm, scope.symm⟩
    · exact ⟨e, he, rfl, rfl⟩

theorem add (indexed : Indexed labels standings) (new : Standing)
    (fresh : ∀ p ∈ labels, p.1 ≠ new.scope.label) :
    Indexed (labels.filter (·.1 ≠ new.scope.label) ++ [(new.scope.label, new.id)])
      (standings ++ [new]) := by
  have kept : labels.filter (·.1 ≠ new.scope.label) = labels :=
    List.filter_eq_self.mpr fun p member => decide_eq_true (fresh p member)
  rw [kept]
  constructor
  · exact Keyed.nodup_map_append indexed.single fresh
  · intro label id
    simp only [List.mem_append, List.mem_singleton, indexed.mirror label id, Prod.mk.injEq]
    constructor
    · rintro (⟨e, he, rfl, rfl⟩ | ⟨rfl, rfl⟩)
      · exact ⟨e, .inl he, rfl, rfl⟩
      · exact ⟨new, .inr rfl, rfl, rfl⟩
    · rintro ⟨e, he | rfl, rfl, rfl⟩
      · exact .inl ⟨e, he, rfl, rfl⟩
      · exact .inr ⟨rfl, rfl⟩

theorem drop (indexed : Indexed labels standings) {old : Standing} (member : old ∈ standings)
    (unique : (standings.map (·.id)).Nodup) :
    Indexed (labels.filter fun (label, id) => !(label = old.scope.label && id = old.id))
      (standings.filter (·.id ≠ old.id)) := by
  constructor
  · exact indexed.single.sublist (List.filter_sublist.map _)
  · intro label id
    simp only [List.mem_filter, indexed.mirror label id]
    constructor
    · rintro ⟨⟨e, he, rfl, rfl⟩, other⟩
      refine ⟨e, ⟨he, ?_⟩, rfl, rfl⟩
      refine decide_eq_true fun same => ?_
      obtain rfl := Keyed.eq_of_key unique he member same
      simp at other
    · rintro ⟨e, ⟨he, other⟩, rfl, rfl⟩
      have other : e.id ≠ old.id := of_decide_eq_true other
      exact ⟨⟨e, he, rfl, rfl⟩, by simp [other]⟩

end Indexed

namespace Queue

variable {q : Queue} {failed : Task} {now : Instant} {draw : Nat}

theorem mem_entries_of_standing {s : Standing} (member : s ∈ q.standings) :
    ∃ e ∈ q.entries, e.standing = s :=
  List.mem_map.mp member

/-- The index leads from the label of an entry to that entry. -/
theorem findByScope_of_mem (indexed : Indexed q.byScope q.standings)
    (unique : (q.standings.map (·.id)).Nodup) {e : QueueEntry} (member : e ∈ q.entries) {scope : Scope}
    (label : scope.label = e.scope.label) : q.findByScope scope = some e := by
  have known := indexed.mem_of_standing (List.mem_map_of_mem member)
  have first : q.byScope.find? (·.1 = e.scope.label) = some (e.scope.label, e.id) :=
    Keyed.find?_of_mem indexed.single known
  have unique : (q.entries.map (·.id)).Nodup := by
    simpa [standings, Function.comp_def] using unique
  have found : q.find? e.id = some e := Keyed.find?_of_mem unique member
  rw [findByScope, idOfLabel?, label, first]
  exact found

theorem mem_replace {old new : QueueEntry} (member : old ∈ q.entries) (same : old.id = new.id) :
    new ∈ (q.replace new).entries :=
  List.mem_map.mpr ⟨old, member, if_pos same⟩

/-- An entry that was changed in its place is found under its label. -/
theorem findByScope_replace (indexed : Indexed q.byScope q.standings)
    (unique : (q.standings.map (·.id)).Nodup) {old : QueueEntry} (new : QueueEntry)
    (member : old ∈ q.entries) (id : new.id = old.id) (scope : new.scope = old.scope) {s : Scope}
    (label : s.label = old.scope.label) : (q.replace new).findByScope s = some new := by
  have settled := indexed.settle new.standing (List.mem_map_of_mem member) unique id
    (congrArg Scope.label scope)
  refine findByScope_of_mem ?_ ?_ (mem_replace member id.symm) (by rw [label, scope])
  · rw [standings_replace, labels_replace]
    exact settled
  · rw [standings_replace, Keyed.map_key_replaceBy]
    exact unique

/-- Recording a failure never fails. It creates an entry under the label of the scope or updates
the one that is there, and the entry names the failed task and its error. -/
theorem enqueue_records (indexed : Indexed q.byScope q.standings)
    (unique : (q.standings.map (·.id)).Nodup) (status : failed.status = .failed) (mode : RetryMode)
    (now : Instant) (fresh : EntryId) (draw : Nat) :
    ∃ after m, q.enqueue failed mode now fresh draw = .ok (after, m) ∧
      m.entry.lastTask = failed.id ∧ m.entry.lastError = failed.errorCode ∧
      ((m.kind = .updated ∧ after.findByScope failed.scope = some m.entry) ∨
        (m.kind = .created ∧
          ((∀ e ∈ q.standings, e.id ≠ fresh) → after.findByScope failed.scope = some m.entry))) := by
  cases label : q.idOfLabel? failed.scope.label with
  | some id =>
    obtain ⟨s, known, rfl, same⟩ := (indexed.mirror _ _).mp (mem_of_idOfLabel? label)
    obtain ⟨e, member, rfl⟩ := mem_entries_of_standing known
    have found : q.find? e.id = some e := by
      refine Keyed.find?_of_mem ?_ member
      simpa [standings, Function.comp_def] using unique
    have accepted : q.enqueue failed mode now fresh draw = _ := enqueue_of_label status label
    simp only [QueueEntry.standing_id, found] at accepted
    refine ⟨_, _, accepted, rfl, rfl, .inl ⟨rfl, ?_⟩⟩
    exact findByScope_replace indexed unique (q.repeatedFailure e failed now draw) member rfl rfl
      same.symm
  | none =>
    refine ⟨_, _, enqueue_of_new_label status label, rfl, rfl, .inr ⟨rfl, fun absent => ?_⟩⟩
    have added := indexed.add (q.newEntry fresh failed mode now draw).standing
      (idOfLabel?_eq_none.mp label)
    refine findByScope_of_mem ?_ ?_ (List.mem_append_right _ (List.mem_singleton_self _)) rfl
    · rw [standings_add]
      exact added
    · rw [standings_add]
      exact Keyed.nodup_map_append unique absent

/-- Recording that a retry failed finds the entry again under the label of the scope. -/
theorem recordRetryFailure_records (indexed : Indexed q.byScope q.standings)
    (unique : (q.standings.map (·.id)).Nodup) {id : EntryId} {e : QueueEntry}
    (found : q.find? id = some e) (label : failed.scope.label = e.scope.label) (now : Instant)
    (draw : Nat) :
    ∃ after m, q.recordRetryFailure id failed now draw = .ok (after, m) ∧
      m.entry.lastTask = failed.id ∧ m.entry.lastError = failed.errorCode ∧ m.kind = .updated ∧
      after.findByScope failed.scope = some m.entry := by
  have accepted := recordRetryFailure_eq q id failed now draw
  simp only [found] at accepted
  refine ⟨_, _, accepted, rfl, rfl, rfl, ?_⟩
  exact findByScope_replace indexed unique (q.retryFailed e failed now draw) (mem_of_find? found).1
    rfl rfl label

end Queue

end Reindexing
