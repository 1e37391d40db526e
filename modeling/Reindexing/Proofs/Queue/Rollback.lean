import Reindexing.Proofs.Queue.Calls

/-!
# What a rollback puts back

A claim remembers its entry, and a release puts the whole entry back as it is
remembered. While the claim is out, failures and mode switches go into the
claimed entry, and the entry shows them until the release. They outlast the
release only as far as the entry showed them before it was claimed; otherwise
they are lost, although the claim had nothing to do with them.
-/
namespace Reindexing

namespace Queue

/-- The failure that a call records under a label, and its time. -/
def Call.failureUnder? (label : String) : Call → Option (Task × Instant)
  | .enqueue failed _ now _ _ =>
    if failed.status = .failed ∧ failed.scope.label = label then some (failed, now) else none
  | _ => none

/-- The mode that a call chooses for an entry. -/
def Call.modeOf? (id : EntryId) : Call → Option RetryMode
  | .setMode chosen mode .. => if chosen = id then some mode else none
  | _ => none

/-- Whether a call records the failure of a task or chooses a mode. -/
def Call.isUpdate : Call → Bool
  | .enqueue .. | .setMode .. => true
  | _ => false

/-- The last failure that these calls record under a label. -/
def lastFailure? (label : String) (calls : List Call) : Option (Task × Instant) :=
  calls.reverse.findSome? (Call.failureUnder? label)

/-- The last mode that these calls choose for an entry. -/
def lastMode? (id : EntryId) (calls : List Call) : Option RetryMode :=
  calls.reverse.findSome? (Call.modeOf? id)

@[simp] theorem lastFailure?_snoc (label : String) (calls : List Call) (c : Call) :
    lastFailure? label (calls ++ [c]) = (c.failureUnder? label).or (lastFailure? label calls) := by
  simp only [lastFailure?, List.reverse_append, List.reverse_singleton, List.singleton_append,
    List.findSome?_cons]
  cases c.failureUnder? label <;> rfl

@[simp] theorem lastMode?_snoc (id : EntryId) (calls : List Call) (c : Call) :
    lastMode? id (calls ++ [c]) = (c.modeOf? id).or (lastMode? id calls) := by
  simp only [lastMode?, List.reverse_append, List.reverse_singleton, List.singleton_append,
    List.findSome?_cons]
  cases c.modeOf? id <;> rfl

end Queue

/-- The entry shows the last failure under its label and the last mode chosen for it. -/
structure QueueEntry.Shows (e : QueueEntry) (calls : List Queue.Call) : Prop where
  failure : ∀ failed since, Queue.lastFailure? e.scope.label calls = some (failed, since) →
    e.lastTask = failed.id ∧ e.lastError = failed.errorCode ∧ e.lastAttemptAt = some since
  mode : ∀ mode, Queue.lastMode? e.id calls = some mode → e.mode = mode

namespace QueueEntry

variable {e next : QueueEntry} {calls : List Queue.Call} {c : Queue.Call}

theorem shows_nil (e : QueueEntry) : e.Shows [] where
  failure _ _ none := by cases none
  mode _ none := by cases none

/-- A call that neither records a failure of the entry nor chooses a mode for it changes nothing
about what the entry has to show. -/
theorem Shows.aside (before : e.Shows calls) (failure : c.failureUnder? e.scope.label = none)
    (mode : c.modeOf? e.id = none) : e.Shows (calls ++ [c]) where
  failure := by
    rw [Queue.lastFailure?_snoc, failure, Option.none_or]
    exact before.failure
  mode := by
    rw [Queue.lastMode?_snoc, mode, Option.none_or]
    exact before.mode

theorem shows_congr {other : QueueEntry} (id : other.id = e.id) (scope : other.scope = e.scope)
    (lastTask : other.lastTask = e.lastTask) (lastError : other.lastError = e.lastError)
    (lastAttemptAt : other.lastAttemptAt = e.lastAttemptAt) (mode : other.mode = e.mode) :
    other.Shows calls ↔ e.Shows calls := by
  constructor <;> intro shown <;> constructor
  · rw [← scope, ← lastTask, ← lastError, ← lastAttemptAt]
    exact shown.failure
  · rw [← id, ← mode]
    exact shown.mode
  · rw [scope, lastTask, lastError, lastAttemptAt]
    exact shown.failure
  · rw [id, mode]
    exact shown.mode

/-- Ended cooldowns and touches do not matter to what an entry shows. -/
theorem shows_restored (e : QueueEntry) (since now : Instant) (calls : List Queue.Call) :
    ((e.clearElapsed since).touch now).Shows calls ↔ e.Shows calls := by
  have fields : ∀ f : QueueEntry, f = e ∨ f = { e with cooldownUntil := none } →
      ((f.touch now).Shows calls ↔ e.Shows calls) := by
    rintro f (rfl | rfl) <;> exact shows_congr rfl rfl rfl rfl rfl rfl
  refine fields _ ?_
  unfold clearElapsed
  split
  · exact .inr rfl
  · exact .inl rfl

end QueueEntry

namespace Ledger

variable {l m : Ledger} {e : QueueEntry} {calls : List Queue.Call} {id : EntryId}

/-- A failure under the label of an entry goes into that entry; any other failure leaves the entry
as it is. -/
theorem enqueue_shows (sound : l.Sound) (found : l.queue.find? id = some e) (shown : e.Shows calls)
    (failed : Task) (mode : RetryMode) (now : Instant) {fresh : EntryId} (draw : Nat) :
    ∃ next, (l.perform (.enqueue failed mode now fresh draw)).queue.find? id = some next ∧
      next.scope = e.scope ∧ next.Shows (calls ++ [.enqueue failed mode now fresh draw]) := by
  obtain ⟨member, rfl⟩ := Queue.mem_of_find? found
  by_cases recorded : failed.status = .failed ∧ failed.scope.label = e.scope.label
  · obtain ⟨status, label⟩ := recorded
    have known : l.queue.idOfLabel? failed.scope.label = some e.id :=
      label ▸ sound.idOfLabel?_of_mem member
    refine ⟨l.queue.repeatedFailure e failed now draw, ?_, rfl, ?_⟩
    · simp only [perform, Queue.enqueue_of_label status known, found]
      exact Queue.find?_replace found rfl
    · constructor
      · intro last since eq
        have recorded : (Queue.Call.enqueue failed mode now fresh draw).failureUnder? e.scope.label =
            some (failed, now) := if_pos ⟨status, label⟩
        have last : some (failed, now) = some (last, since) := by
          rw [← eq, Queue.lastFailure?_snoc]
          exact (congrArg (Option.or · _) recorded).symm
        cases last
        exact ⟨rfl, rfl, rfl⟩
      · intro chosen eq
        rw [Queue.lastMode?_snoc] at eq
        exact shown.mode chosen eq
  · refine ⟨e, ?_, rfl, shown.aside (if_neg recorded) rfl⟩
    by_cases status : failed.status = .failed
    · cases known : l.queue.idOfLabel? failed.scope.label with
      | none =>
        simp only [perform, Queue.enqueue_of_new_label status known]
        exact Queue.find?_add found _
      | some other =>
        obtain ⟨f, there, label⟩ := sound.find?_of_label known
        obtain ⟨_, rfl⟩ := Queue.mem_of_find? there
        have different : f.id ≠ e.id := by
          intro same
          rw [same, found] at there
          cases there
          exact recorded ⟨status, label.symm⟩
        simp only [perform, Queue.enqueue_of_label status known, there]
        exact Queue.find?_replace_other found different
    · simp only [perform, Queue.enqueue_of_not_failed status]
      exact found

theorem setMode_shows (found : l.queue.find? id = some e) (shown : e.Shows calls) (chosen : EntryId)
    (mode : RetryMode) (actor : String) (now : Instant) (draw : Nat) :
    ∃ next, (l.perform (.setMode chosen mode actor now draw)).queue.find? id = some next ∧
      next.scope = e.scope ∧ next.Shows (calls ++ [.setMode chosen mode actor now draw]) := by
  obtain ⟨_, rfl⟩ := Queue.mem_of_find? found
  simp only [perform, Queue.setMode_eq]
  by_cases same : chosen = e.id
  · subst same
    simp only [found]
    refine ⟨_, Queue.find?_replace found rfl, rfl, ?_⟩
    constructor
    · intro failed since eq
      rw [Queue.lastFailure?_snoc] at eq
      exact shown.failure failed since eq
    · intro last eq
      have chosen : (Queue.Call.setMode e.id mode actor now draw).modeOf? e.id = some mode := if_pos rfl
      have last : some mode = some last := by
        rw [← eq, Queue.lastMode?_snoc]
        exact (congrArg (Option.or · _) chosen).symm
      exact Option.some.inj last
  · refine ⟨e, ?_, rfl, shown.aside rfl (if_neg same)⟩
    cases there : l.queue.find? chosen with
    | none => exact found
    | some f =>
      have id : f.id = chosen := (Queue.mem_of_find? there).2
      exact Queue.find?_replace_other found fun eq : f.id = e.id => same (id.symm.trans eq)

/-- An entry shows the failures and modes that come up while nothing else happens to it. -/
theorem Leads.shows (meanwhile : Leads l calls m) (sound : l.Sound)
    (found : l.queue.find? id = some e) (updates : ∀ c ∈ calls, c.isUpdate = true) :
    ∃ current, m.queue.find? id = some current ∧ current.scope = e.scope ∧ current.Shows calls := by
  induction meanwhile with
  | refl => exact ⟨e, found, rfl, e.shows_nil⟩
  | @call calls m c leads admits ih =>
    obtain ⟨current, there, scope, shown⟩ := ih fun d member => updates d (List.mem_append_left _ member)
    rw [← scope]
    cases c with
    | enqueue failed mode now fresh draw =>
      exact enqueue_shows (leads.sound sound) there shown failed mode now draw
    | setMode chosen mode actor now draw =>
      exact setMode_shows there shown chosen mode actor now draw
    | _ => exact absurd (updates _ (List.mem_append_right _ (List.mem_singleton_self _))) nofun

/-- A release puts the entry back as it was when it was claimed, but for a cooldown that had ended.
The entry shows what was recorded in it in the meantime right before the release; after the release
it does so exactly if it did before the claim. -/
theorem release_restores_the_claimed_entry {policy : CooldownPolicy} {maxAttempts : Nat}
    (run : Leads (start policy maxAttempts) calls l) {actor : String} {note : Option String}
    {force : Bool} {since : Instant} {queue : Queue} {taken : Claim}
    (claims : l.queue.claim id actor note force since = (queue, .ok taken))
    {between : List Queue.Call}
    (meanwhile : Leads (l.perform (.claim id actor note force since)) between m)
    (updates : ∀ c ∈ between, c.isUpdate = true) (now : Instant) :
    ∃ before current released, l.queue.find? id = some before ∧
      m.queue.find? id = some current ∧ current.Shows between ∧
      released = (before.clearElapsed since).touch now ∧
      m.queue.release taken now =
        (m.queue.replace released, some ⟨.released, released, none, now⟩) ∧
      (m.queue.replace released).find? id = some released ∧
      (released.Shows between ↔ before.Shows between) := by
  have sound := run.sound (sound_start policy maxAttempts)
  obtain ⟨before, found, _, claimed, previous, same⟩ := Queue.claim_ok claims
  have held : (l.perform (.claim id actor note force since)).queue.find? id = some taken.entry := by
    simp only [perform, claims, claimed]
    exact Queue.find?_replace found (congrArg Standing.id same)
  obtain ⟨current, there, _, shown⟩ := meanwhile.shows (sound.perform trivial) held updates
  have identified : taken.previous.id = before.id := by
    rw [previous]
    exact before.id_clearElapsed since
  have current_id : taken.previous.id = current.id :=
    identified.trans ((Queue.mem_of_find? found).2.trans (Queue.mem_of_find? there).2.symm)
  refine ⟨before, current, _, found, there, shown, rfl, ?_, ?_, before.shows_restored since now between⟩
  · rw [Queue.release, current_id, (Queue.mem_of_find? there).2, there, previous]
  · refine Queue.find?_replace there (Eq.trans ?_ current_id)
    rw [previous]
    rfl

/-- A mode switch is lost: an operator hands a claimed entry over to the scheduler, and the release
takes it back. -/
theorem release_of_an_entry_in_another_mode :
    ∃ (l m : Ledger) (queue : Queue) (taken : Claim) (between : List Queue.Call),
      l.queue.claim ⟨.ofNat 1⟩ "ops" none false .epoch = (queue, .ok taken) ∧
      Leads (l.perform (.claim ⟨.ofNat 1⟩ "ops" none false .epoch)) between m ∧
      ∃ before current released, l.queue.find? ⟨.ofNat 1⟩ = some before ∧
        m.queue.find? ⟨.ofNat 1⟩ = some current ∧ current.Shows between ∧
        released = (before.clearElapsed .epoch).touch .epoch ∧
        m.queue.release taken .epoch =
          (m.queue.replace released, some ⟨.released, released, none, .epoch⟩) ∧
        (m.queue.replace released).find? ⟨.ofNat 1⟩ = some released ∧
        (released.Shows between ↔ before.Shows between) := by
  let failed : Task := { Task.create ⟨.ofNat 1⟩ .all "ops" .epoch with status := .failed }
  have opened : Leads (start (.ofSpans .zero .zero) 3) [] _ := .refl
  have run := opened.call (.enqueue failed .manual .epoch ⟨.ofNat 1⟩ 0) (by decide)
  have claims : ∃ queue taken, ((start (.ofSpans .zero .zero) 3).perform
      (.enqueue failed .manual .epoch ⟨.ofNat 1⟩ 0)).queue.claim ⟨.ofNat 1⟩ "ops" none false .epoch =
        (queue, .ok taken) := ⟨_, _, rfl⟩
  obtain ⟨queue, taken, claims⟩ := claims
  have held : Leads (((start (.ofSpans .zero .zero) 3).perform
      (.enqueue failed .manual .epoch ⟨.ofNat 1⟩ 0)).perform
        (.claim ⟨.ofNat 1⟩ "ops" none false .epoch)) [] _ := .refl
  have meanwhile := held.call (.setMode ⟨.ofNat 1⟩ .auto "ops" .epoch 0) trivial
  exact ⟨_, _, queue, taken, _, claims, meanwhile,
    release_restores_the_claimed_entry run claims meanwhile (by decide) .epoch⟩

/-- A failure is lost: a second task fails for the scope of a claimed entry, and after the release
the entry names the first one again. -/
theorem release_loses_a_failure :
    ¬ ∀ (policy : CooldownPolicy) (maxAttempts : Nat) (calls between : List Queue.Call) (l m : Ledger)
      (id : EntryId) (actor : String) (note : Option String) (force : Bool) (since now : Instant)
      (queue : Queue) (taken : Claim), Leads (start policy maxAttempts) calls l →
      l.queue.claim id actor note force since = (queue, .ok taken) →
      Leads (l.perform (.claim id actor note force since)) between m →
      (∀ c ∈ between, c.isUpdate = true) →
      ∃ released, (m.queue.release taken now).1.find? id = some released ∧ released.Shows between := by
  intro keeps
  let failed (n : Nat) : Task := { Task.create ⟨.ofNat n⟩ .all "ops" .epoch with status := .failed }
  let l := (start (.ofSpans .zero .zero) 3).perform (.enqueue (failed 1) .manual .epoch ⟨.ofNat 1⟩ 0)
  let again : Queue.Call := .enqueue (failed 2) .manual .epoch ⟨.ofNat 2⟩ 0
  have run : Leads (start (.ofSpans .zero .zero) 3) _ l := .call _ .refl (by decide)
  have meanwhile : Leads (l.perform (.claim ⟨.ofNat 1⟩ "ops" none false .epoch)) [again] _ :=
    .call again .refl (by decide)
  obtain ⟨released, found, shown⟩ := keeps _ _ _ _ _ _ ⟨.ofNat 1⟩ "ops" none false .epoch .epoch _ _
    run rfl meanwhile (by decide)
  cases found
  exact absurd (shown.failure (failed 2) .epoch (by decide)).1 (by decide)

end Ledger

end Reindexing
