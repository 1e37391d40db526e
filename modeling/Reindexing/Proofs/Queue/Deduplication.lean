import Reindexing.Proofs.Queue.Calls
import Reindexing.Proofs.Scope.Labels

/-!
# The entry that a failure goes to

The queue tells scopes apart by their labels. A failure goes to the entry under
the label of its scope, so it is absorbed by an entry for other sources exactly
if such an entry stands under that label. Where no key contains a comma this
never happens, because the label of an accepted scope then decides the scope.
-/
namespace Reindexing

/-- The scope of a recorded failure was accepted. -/
def Queue.Call.IsAccepted : Queue.Call → Prop
  | .enqueue failed .. => failed.scope.IsAccepted
  | _ => True

namespace Ledger

variable {l : Ledger} {calls : List Queue.Call}

theorem entryIds_perform {c : Queue.Call} (other : ∀ failed mode now fresh draw,
    c ≠ .enqueue failed mode now fresh draw) : (l.perform c).entryIds = l.entryIds := by
  cases c with
  | enqueue failed mode now fresh draw => exact absurd rfl (other failed mode now fresh draw)
  | release | resolve | clearElapsed => rfl
  | _ =>
    simp only [perform]
    split <;> rfl

/-- Only the first failure of a label brings a scope that no entry had. -/
theorem scope_origin (sound : l.Sound) {c : Queue.Call} (admits : l.Admits c) {s : Standing}
    (member : s ∈ (l.perform c).queue.standings) :
    (∃ old ∈ l.queue.standings, old.scope = s.scope) ∨
      ∃ failed mode now fresh draw, c = .enqueue failed mode now fresh draw ∧
        s.scope = failed.scope := by
  rcases (effect sound admits).origin member with ⟨old, known, _, scope⟩ | ⟨new, given⟩
  · exact .inl ⟨old, known, scope⟩
  · cases c with
    | enqueue failed mode now fresh draw =>
      refine .inr ⟨failed, mode, now, fresh, draw, rfl, ?_⟩
      by_cases status : failed.status = .failed
      · cases label : l.queue.idOfLabel? failed.scope.label with
        | none =>
          simp only [perform, Queue.enqueue_of_new_label status label, Queue.standings_add] at member
          rcases List.mem_append.mp member with old | added
          · exact absurd (sound.issued s old) new
          · rw [List.mem_singleton.mp added]
            rfl
        | some id =>
          obtain ⟨e, found, _⟩ := sound.find?_of_label label
          simp only [perform, Queue.enqueue_of_label status label, found, reduceCtorEq,
            if_false] at given
          exact absurd given new
      · simp only [perform, Queue.enqueue_of_not_failed status] at given
        exact absurd given new
    | _ =>
      rw [entryIds_perform fun _ _ _ _ _ same => by cases same] at given
      exact absurd given new

theorem Leads.accepted {policy : CooldownPolicy} {maxAttempts : Nat}
    (run : Leads (start policy maxAttempts) calls l) (accepted : ∀ c ∈ calls, c.IsAccepted) :
    ∀ s ∈ l.queue.standings, s.scope.IsAccepted := by
  induction run with
  | refl => exact nofun
  | @call calls l c leads admits ih =>
    intro s member
    have before := ih fun d earlier => accepted d (List.mem_append_left _ earlier)
    rcases scope_origin (leads.sound (sound_start policy maxAttempts)) admits member with
      ⟨old, known, scope⟩ | ⟨failed, mode, now, fresh, draw, rfl, scope⟩
    · exact scope ▸ before old known
    · exact scope ▸ accepted _ (List.mem_append_right _ (List.mem_singleton_self _))

/-- A failure is recorded under the label of its scope, in the entry that stands there. -/
theorem enqueue_joins (sound : l.Sound) {failed : Task} (status : failed.status = .failed)
    (mode : RetryMode) (now : Instant) {fresh : EntryId} (new : fresh ∉ l.entryIds) (draw : Nat) :
    ∃ after m, l.queue.enqueue failed mode now fresh draw = .ok (after, m) ∧
      after.findByScope failed.scope = some m.entry ∧ m.entry.scope.label = failed.scope.label ∧
      (m.entry.scope = failed.scope ↔ ∀ e ∈ l.queue.entries,
        e.scope.label = failed.scope.label → e.scope = failed.scope) := by
  cases label : l.queue.idOfLabel? failed.scope.label with
  | none =>
    have absent := Queue.idOfLabel?_eq_none.mp label
    refine ⟨_, _, Queue.enqueue_of_new_label status label, ?_, rfl, iff_of_true rfl ?_⟩
    · have added : l.Effect ⟨(l.queue.noteOverflow _).add (l.queue.newEntry fresh failed mode now draw), _⟩ :=
        .added (l.queue.overflows (l.queue.newEntry fresh failed mode now draw) draw) new absent
      have after := added.sound sound.toSound
      exact Queue.findByScope_of_mem after.indexed after.unique
        (List.mem_append_right _ (List.mem_singleton_self _)) rfl
    · intro e member same
      exact absurd same (absent _ (sound.indexed.mem_of_standing (List.mem_map_of_mem member)))
  | some id =>
    obtain ⟨e, found, same⟩ := sound.find?_of_label label
    obtain ⟨member, rfl⟩ := Queue.mem_of_find? found
    have updated : l.queue.enqueue failed mode now fresh draw = _ := Queue.enqueue_of_label status label
    simp only [found] at updated
    refine ⟨_, _, updated, ?_, same, ?_, ?_⟩
    · exact Queue.findByScope_replace sound.indexed sound.unique
        (l.queue.repeatedFailure e failed now draw) member rfl rfl same.symm
    · intro absorbed f other labelled
      have standing := sound.indexed.id_of_label (List.mem_map_of_mem other)
        (List.mem_map_of_mem member) (labelled.trans same.symm)
      have eq : f = e := Keyed.eq_of_key sound.unique_ids other member standing
      exact eq ▸ absorbed
    · exact fun alone => alone e member same

/-- Recording a failure of an accepted scope never fails, and the entry has the scope of the failure
exactly if no entry for other sources stands under its label. As long as keys contain no comma none
does, since accepted scopes with one label are then equal. -/
theorem failures_join_entries_by_label {policy : CooldownPolicy} {maxAttempts : Nat}
    (run : Leads (start policy maxAttempts) calls l) (accepted : ∀ c ∈ calls, c.IsAccepted)
    {failed : Task} (status : failed.status = .failed) (scope : failed.scope.IsAccepted)
    (mode : RetryMode) (now : Instant) {fresh : EntryId} (new : fresh ∉ l.entryIds) (draw : Nat) :
    ∃ after m, l.queue.enqueue failed mode now fresh draw = .ok (after, m) ∧
      after.findByScope failed.scope = some m.entry ∧
      (m.entry.scope = failed.scope ↔ ∀ e ∈ l.queue.entries,
        e.scope.label = failed.scope.label → e.scope = failed.scope) ∧
      (failed.scope.IsCommaFree →
        ((∀ e ∈ l.queue.entries, e.scope.IsCommaFree) → m.entry.scope = failed.scope) ∧
        ∀ other : Scope, other.IsAccepted → other.IsCommaFree → other.label = failed.scope.label →
          other = failed.scope) := by
  have sound := run.sound (sound_start policy maxAttempts)
  obtain ⟨after, m, recorded, found, _, same⟩ := enqueue_joins sound status mode now new draw
  have decides : failed.scope.IsCommaFree → ∀ other : Scope, other.IsAccepted → other.IsCommaFree →
      other.label = failed.scope.label → other = failed.scope :=
    fun free other accepted free_other => Scope.eq_of_label accepted scope free_other free
  refine ⟨after, m, recorded, found, same, fun free => ⟨fun commaFree => ?_, decides free⟩⟩
  refine same.mpr fun e member => decides free e.scope ?_ (commaFree e member)
  exact run.accepted accepted e.standing (List.mem_map_of_mem member)

/-- The second failure of `news` goes to the entry of the first one, beside an entry for `filings`. -/
theorem repeated_failure_joins_its_entry :
    ∃ (l : Ledger) (failed : Task), l.queue.entries.map (·.scope) = [.sources ["filings"], .sources ["news"]] ∧
      failed.scope = .sources ["news"] ∧
      ∃ after m, l.queue.enqueue failed .manual .epoch ⟨.ofNat 3⟩ 0 = .ok (after, m) ∧
        after.findByScope failed.scope = some m.entry ∧
        (m.entry.scope = failed.scope ↔ ∀ e ∈ l.queue.entries,
          e.scope.label = failed.scope.label → e.scope = failed.scope) ∧
        (failed.scope.IsCommaFree →
          ((∀ e ∈ l.queue.entries, e.scope.IsCommaFree) → m.entry.scope = failed.scope) ∧
          ∀ other : Scope, other.IsAccepted → other.IsCommaFree → other.label = failed.scope.label →
            other = failed.scope) := by
  let failed (n : Nat) (key : String) : Task :=
    { Task.create ⟨.ofNat n⟩ (.sources [key]) "ops" .epoch with status := .failed }
  have opened : Leads (start (.ofSpans .zero .zero) 3) [] _ := .refl
  have filings := opened.call (.enqueue (failed 1 "filings") .manual .epoch ⟨.ofNat 1⟩ 0) (by decide)
  have news := filings.call (.enqueue (failed 2 "news") .manual .epoch ⟨.ofNat 2⟩ 0) (by decide)
  refine ⟨_, failed 3 "news", by decide, rfl,
    failures_join_entries_by_label news ?_ rfl ⟨["news"], rfl⟩ .manual .epoch (by decide) 0⟩
  intro c member
  rcases List.mem_append.mp member with member | member
  · obtain rfl := List.mem_singleton.mp member
    exact ⟨["filings"], rfl⟩
  · obtain rfl := List.mem_singleton.mp member
    exact ⟨["news"], rfl⟩

/-- The sources `a` and `b` fail under the label of the one source `a,b`, and its entry absorbs the
failure. -/
theorem failure_joins_an_entry_for_other_sources :
    ¬ ∀ (policy : CooldownPolicy) (maxAttempts : Nat) (calls : List Queue.Call) (l : Ledger)
      (failed : Task) (mode : RetryMode) (now : Instant) (fresh : EntryId) (draw : Nat),
      Leads (start policy maxAttempts) calls l → (∀ c ∈ calls, c.IsAccepted) →
      failed.status = .failed → failed.scope.IsAccepted → fresh ∉ l.entryIds →
      ∃ after m, l.queue.enqueue failed mode now fresh draw = .ok (after, m) ∧
        m.entry.scope = failed.scope := by
  intro joins
  let failed (n : Nat) (keys : List String) : Task :=
    { Task.create ⟨.ofNat n⟩ (.sources keys) "ops" .epoch with status := .failed }
  have opened : Leads (start (.ofSpans .zero .zero) 3) [] _ := .refl
  have run := opened.call (.enqueue (failed 1 ["a,b"]) .manual .epoch ⟨.ofNat 1⟩ 0) (by decide)
  have accepted : ∀ c ∈ [Queue.Call.enqueue (failed 1 ["a,b"]) .manual .epoch ⟨.ofNat 1⟩ 0],
      c.IsAccepted := by
    intro c member
    obtain rfl := List.mem_singleton.mp member
    exact ⟨["a,b"], rfl⟩
  obtain ⟨after, m, recorded, same⟩ := joins _ _ _ _ (failed 2 ["a", "b"]) .manual .epoch ⟨.ofNat 2⟩ 0
    run accepted rfl ⟨["a", "b"], rfl⟩ (by decide)
  cases recorded
  exact absurd same (by decide)

end Ledger

end Reindexing
