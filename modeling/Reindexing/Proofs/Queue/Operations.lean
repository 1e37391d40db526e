import Reindexing.Proofs.Keyed
import Reindexing.Queue

/-!
# Operations of the retry queue

Closed forms of the queue operations. Each either leaves the entries alone, puts
a changed entry in the place of the old one, adds an entry or drops one. What the
rest of the program relies on is the standing of an entry: its scope, whether its
retry is running, and the tasks that it names. Attempts, modes, times and notes
are not part of it, so that mode switches and ended cooldowns change no standing.
-/
namespace Reindexing

/-- Who an entry is and where its retry stands. -/
structure Standing where
  id : EntryId
  scope : Scope
  status : QueueStatus
  currentTask : Option TaskId
  originalTask : TaskId
  lastTask : TaskId
  deriving DecidableEq, Repr

namespace QueueEntry

def standing (e : QueueEntry) : Standing :=
  ⟨e.id, e.scope, e.status, e.currentTask, e.originalTask, e.lastTask⟩

@[simp] theorem standing_id (e : QueueEntry) : e.standing.id = e.id := rfl

@[simp] theorem standing_touch (e : QueueEntry) (now : Instant) :
    (e.touch now).standing = e.standing := rfl

@[simp] theorem standing_clearElapsed (e : QueueEntry) (now : Instant) :
    (e.clearElapsed now).standing = e.standing := by
  unfold clearElapsed
  split <;> rfl

@[simp] theorem id_clearElapsed (e : QueueEntry) (now : Instant) : (e.clearElapsed now).id = e.id :=
  congrArg Standing.id (e.standing_clearElapsed now)

@[simp] theorem scope_clearElapsed (e : QueueEntry) (now : Instant) : (e.clearElapsed now).scope = e.scope :=
  congrArg Standing.scope (e.standing_clearElapsed now)

end QueueEntry

namespace Queue

variable {q after : Queue} {id : EntryId} {e : QueueEntry} {failed : Task} {now : Instant}
  {draw : Nat}

/-- The standings of the entries, in the order of the entries. -/
def standings (q : Queue) : List Standing := q.entries.map (·.standing)

theorem mem_of_find? (found : q.find? id = some e) : e ∈ q.entries ∧ e.id = id :=
  Keyed.mem_of_find? found

theorem standing_mem_of_find? (found : q.find? id = some e) :
    e.standing ∈ q.standings ∧ e.standing.id = id :=
  ⟨List.mem_map_of_mem (mem_of_find? found).1, (mem_of_find? found).2⟩

theorem find?_eq_none : q.find? id = none ↔ ∀ s ∈ q.standings, s.id ≠ id := by
  simp [find?, standings]

theorem mem_of_idOfLabel? {label : String} (found : q.idOfLabel? label = some id) :
    (label, id) ∈ q.byScope := by
  obtain ⟨⟨l, i⟩, first, rfl⟩ := Option.map_eq_some_iff.mp found
  obtain ⟨member, same⟩ : (l, i) ∈ q.byScope ∧ l = label := Keyed.mem_of_find? first
  rwa [same] at member

theorem idOfLabel?_eq_none {label : String} :
    q.idOfLabel? label = none ↔ ∀ p ∈ q.byScope, p.1 ≠ label := by
  simp [idOfLabel?]

/-! ### Changes of the entries -/

@[simp] theorem labels_replace (q : Queue) (e : QueueEntry) : (q.replace e).byScope = q.byScope := rfl

theorem standings_replace (q : Queue) (e : QueueEntry) :
    (q.replace e).standings = Keyed.replaceBy (·.id) e.standing q.standings := by
  simp only [standings, replace, Keyed.replaceBy, List.map_map]
  apply List.map_congr_left
  intro b _
  by_cases same : b.id = e.id <;> simp [same]

theorem standings_add (q : Queue) (e : QueueEntry) :
    (q.add e).standings = q.standings ++ [e.standing] := by
  simp [standings, add]

theorem standings_drop (q : Queue) (e : QueueEntry) :
    (q.drop e).standings = q.standings.filter (·.id ≠ e.id) := by
  simp only [standings, drop, List.filter_map]
  rfl

/-- An entry that keeps its standing leaves all standings as they were. -/
theorem standings_replace_same (unique : (q.standings.map (·.id)).Nodup) {new : QueueEntry}
    (member : e ∈ q.entries) (same : new.standing = e.standing) :
    (q.replace new).standings = q.standings := by
  rw [standings_replace, same]
  exact Keyed.replaceBy_self unique (List.mem_map_of_mem member)

/-- Replacing an entry touches what is found under its own identifier only. -/
theorem find?_replace_eq (q : Queue) (new : QueueEntry) (id : EntryId) :
    (q.replace new).find? id = (q.find? id).map fun b => if b.id = new.id then new else b := by
  have kept : (fun b : QueueEntry => decide ((if b.id = new.id then new else b).id = id)) =
      fun b => decide (b.id = id) := by
    funext b
    by_cases same : b.id = new.id <;> simp [same]
  rw [find?, replace, List.find?_map, Function.comp_def, kept]
  rfl

theorem find?_replace (found : q.find? id = some e) {new : QueueEntry} (same : new.id = e.id) :
    (q.replace new).find? id = some new := by
  rw [find?_replace_eq, found, Option.map_some, if_pos same.symm]

theorem find?_replace_of_ne (q : Queue) {new : QueueEntry} (other : id ≠ new.id) :
    (q.replace new).find? id = q.find? id := by
  rw [find?_replace_eq]
  cases found : q.find? id with
  | none => rfl
  | some b => rw [Option.map_some, (mem_of_find? found).2, if_neg other]

theorem find?_replace_other (found : q.find? id = some e) {new : QueueEntry} (other : new.id ≠ id) :
    (q.replace new).find? id = some e :=
  (q.find?_replace_of_ne other.symm).trans found

/-- An entry that is there already replaces nothing. -/
theorem replace_self (unique : (q.entries.map (·.id)).Nodup) (member : e ∈ q.entries) : q.replace e = q := by
  have same : Keyed.replaceBy (·.id) e q.entries = q.entries := Keyed.replaceBy_self unique member
  exact congrArg (fun entries => { q with entries }) same

theorem replace_replace (q : Queue) {first second : QueueEntry} (same : second.id = first.id) :
    (q.replace first).replace second = q.replace second := by
  simp only [replace, List.map_map, mk.injEq, and_true]
  apply List.map_congr_left
  intro b _
  by_cases h : b.id = first.id <;> simp [h, same]

theorem find?_add (found : q.find? id = some e) (new : QueueEntry) :
    (q.add new).find? id = some e := by
  simp only [find?, add, List.find?_append]
  rw [show q.entries.find? (·.id = id) = some e from found, Option.some_or]

theorem find?_add_of_ne (q : Queue) {new : QueueEntry} (other : id ≠ new.id) :
    (q.add new).find? id = q.find? id := by
  simp [find?, add, List.find?_append, Ne.symm other]

theorem find?_add_self {new : QueueEntry} (absent : q.find? new.id = none) :
    (q.add new).find? new.id = some new := by
  simp only [find?, add, List.find?_append] at absent ⊢
  simp [absent]

theorem find?_clearElapsed (q : Queue) (now : Instant) (id : EntryId) :
    (q.clearElapsed now).1.find? id = (q.find? id).map (·.clearElapsed now) := by
  have kept : (fun b : QueueEntry => decide ((b.clearElapsed now).id = id)) = fun b => decide (b.id = id) := by
    funext b
    rw [b.id_clearElapsed now]
  rw [find?, clearElapsed, List.find?_map, Function.comp_def, kept]
  rfl

/-- Dropping an entry hides nothing but the entry. -/
theorem find?_drop (q : Queue) (old : QueueEntry) (id : EntryId) :
    (q.drop old).find? id = if id = old.id then none else q.find? id := by
  simp only [find?, drop, List.find?_filter]
  split
  · next same =>
    refine List.find?_eq_none.mpr fun b _ both => ?_
    simp [same] at both
  · next other =>
    congr 1
    funext b
    by_cases same : b.id = id
    · simp [same, other]
    · simp [same]

/-! ### Cooldowns that cannot be formed -/

section
variable (q : Queue) (overflow : Bool)

@[simp] theorem entries_noteOverflow : (q.noteOverflow overflow).entries = q.entries := rfl

@[simp] theorem labels_noteOverflow : (q.noteOverflow overflow).byScope = q.byScope := rfl

@[simp] theorem policy_noteOverflow : (q.noteOverflow overflow).policy = q.policy := rfl

@[simp] theorem maxAttempts_noteOverflow : (q.noteOverflow overflow).maxAttempts = q.maxAttempts := rfl

@[simp] theorem standings_noteOverflow : (q.noteOverflow overflow).standings = q.standings := rfl

@[simp] theorem find?_noteOverflow (id : EntryId) : (q.noteOverflow overflow).find? id = q.find? id := rfl

end

/-! ### Standings after the operations -/

@[simp] theorem standing_repeatedFailure (q : Queue) (e : QueueEntry) (failed : Task)
    (now : Instant) (draw : Nat) :
    (q.repeatedFailure e failed now draw).standing =
      { e.standing with lastTask := failed.id } := rfl

@[simp] theorem standing_retryFailed (q : Queue) (e : QueueEntry) (failed : Task) (now : Instant)
    (draw : Nat) :
    (q.retryFailed e failed now draw).standing =
      { e.standing with status := .failed, currentTask := none, lastTask := failed.id } := rfl

@[simp] theorem standing_withMode (q : Queue) (e : QueueEntry) (mode : RetryMode) (now : Instant)
    (draw : Nat) : (q.withMode e mode now draw).standing = e.standing := rfl

theorem standings_clearElapsed (q : Queue) (now : Instant) :
    (q.clearElapsed now).1.standings = q.standings := by
  simp [standings, clearElapsed, Function.comp_def]

/-! ### Operations on the entry with an identifier -/

theorem get_eq (q : Queue) (id : EntryId) :
    q.get id = match q.find? id with
      | some entry => .ok entry
      | none => .error (.entryNotFound id) := rfl

theorem attach_eq (q : Queue) (id : EntryId) (task : TaskId) :
    q.attach id task = match q.find? id with
      | some e => .ok (q.replace { e with currentTask := some task })
      | none => .error (.entryNotFound id) := by
  rw [attach, get_eq]
  cases q.find? id <;> rfl

theorem recordRetryFailure_eq (q : Queue) (id : EntryId) (failed : Task) (now : Instant)
    (draw : Nat) :
    q.recordRetryFailure id failed now draw = match q.find? id with
      | some e => .ok ((q.noteOverflow (q.overflows (q.retryFailed e failed now draw) draw)).replace
            (q.retryFailed e failed now draw),
          ⟨.updated, q.retryFailed e failed now draw, none, now⟩)
      | none => .error (.entryNotFound id) := by
  rw [recordRetryFailure, get_eq]
  cases q.find? id <;> rfl

theorem remove_eq (q : Queue) (id : EntryId) (actor : Option String) (now : Instant) :
    q.remove id actor now = match q.find? id with
      | some e => .ok (q.drop e, ⟨.removed, e, actor, now⟩)
      | none => .error (.entryNotFound id) := by
  rw [remove, get_eq]
  cases q.find? id <;> rfl

theorem setMode_eq (q : Queue) (id : EntryId) (mode : RetryMode) (actor : String) (now : Instant)
    (draw : Nat) :
    q.setMode id mode actor now draw = match q.find? id with
      | some e => .ok ((q.noteOverflow (q.overflows (q.withMode e mode now draw) draw)).replace
            (q.withMode e mode now draw),
          ⟨.modeChanged, q.withMode e mode now draw, some actor, now⟩)
      | none => .error (.entryNotFound id) := by
  rw [setMode, get_eq]
  cases q.find? id <;> rfl

theorem setMode_of_find? (found : q.find? id = some e) (mode : RetryMode) (actor : String) (now : Instant)
    (draw : Nat) :
    q.setMode id mode actor now draw =
      .ok ((q.noteOverflow (q.overflows (q.withMode e mode now draw) draw)).replace
          (q.withMode e mode now draw),
        ⟨.modeChanged, q.withMode e mode now draw, some actor, now⟩) := by
  rw [setMode_eq, found]

/-- A failure of a label with an entry updates that entry. -/
theorem enqueue_of_label (status : failed.status = .failed) {mode : RetryMode} {fresh : EntryId}
    (label : q.idOfLabel? failed.scope.label = some id) :
    q.enqueue failed mode now fresh draw = match q.find? id with
      | some e => .ok ((q.noteOverflow (q.overflows (q.repeatedFailure e failed now draw) draw)).replace
            (q.repeatedFailure e failed now draw),
          ⟨.updated, q.repeatedFailure e failed now draw, none, now⟩)
      | none => .error (.entryNotFound id) := by
  simp only [enqueue, status, label, get_eq, ne_eq, not_true_eq_false, if_false]
  cases q.find? id <;> rfl

/-- The first failure of a label creates an entry. -/
theorem enqueue_of_new_label (status : failed.status = .failed) {mode : RetryMode} {fresh : EntryId}
    (label : q.idOfLabel? failed.scope.label = none) :
    q.enqueue failed mode now fresh draw =
      .ok ((q.noteOverflow (q.overflows (q.newEntry fresh failed mode now draw) draw)).add
          (q.newEntry fresh failed mode now draw),
        ⟨.created, q.newEntry fresh failed mode now draw, none, now⟩) := by
  simp [enqueue, status, label]

theorem enqueue_of_not_failed (status : failed.status ≠ .failed) {mode : RetryMode}
    {fresh : EntryId} :
    q.enqueue failed mode now fresh draw =
      .error (.invalidTransition failed.id failed.status .failed) := by
  simp [enqueue, status]

/-! ### Claims -/

section claim
variable {actor : String} {note : Option String} {force : Bool}

/-- A claim takes an entry whose retry is not running, and remembers it as it was. -/
theorem claim_ok {c : Claim} (success : q.claim id actor note force now = (after, .ok c)) :
    ∃ e, q.find? id = some e ∧ e.status ≠ .running ∧ after = q.replace c.entry ∧
      c.previous = e.clearElapsed now ∧
      c.entry.standing = { e.standing with status := .running } := by
  unfold claim at success
  split at success
  · cases success
  · next e found =>
    split at success
    · cases success
    · next idle =>
      dsimp only at success
      split at success
      · refine ⟨e, found, idle, ?_⟩
        rw [← e.standing_clearElapsed now]
        split at success <;> cases success <;> exact ⟨rfl, rfl, rfl⟩
      · cases success

/-- A refused claim drops at most a cooldown that has ended, of an entry that is not eligible without
it either. -/
theorem claim_error {r : Refusal} (failure : q.claim id actor note force now = (after, .error r)) :
    after = q ∨ ∃ e, q.find? id = some e ∧ (e.clearElapsed now).isEligible now = false ∧
      after = q.replace (e.clearElapsed now) := by
  unfold claim at failure
  split at failure
  · exact .inl (Prod.mk.inj failure).1.symm
  · next e found =>
    split at failure
    · exact .inl (Prod.mk.inj failure).1.symm
    · dsimp only at failure
      split at failure
      · split at failure <;> cases failure
      · next refused =>
        have ineligible : (e.clearElapsed now).isEligible now = false := by
          simp only [Bool.or_eq_true, not_or, Bool.not_eq_true] at refused
          exact refused.1
        exact .inr ⟨e, found, ineligible, (Prod.mk.inj failure).1.symm⟩

/-- A running entry is never claimed, not even by force. -/
theorem claim_of_running (found : q.find? id = some e) (running : e.status = .running) :
    q.claim id actor note force now = (q, .error (.notEligible id .inFlight)) := by
  simp [claim, found, running]

end claim

end Queue

end Reindexing
