import Reindexing.Proofs.Queue.Claims
import Reindexing.Proofs.Queue.Index

/-!
# Runs of the retry queue

The queue on its own, under calls in any order: several claims may be out at a
time, and a claim may be released long after it was taken. A ledger is a queue
with the identifiers that its entries were given and the claims that are out.
Every call has one of five effects on entries and index; what the effects keep,
and what a claim remembers of its entry, holds of every ledger that occurs.
-/
namespace Reindexing

/-- A queue, and the identifiers that were given to its entries so far. -/
structure Books where
  queue : Queue
  entryIds : List EntryId

namespace Books

/-- What an operation does to entries and index. -/
inductive Effect (b : Books) : Books → Prop where
  | nothing : Effect b b
  | changed (overflow : Bool) {old new : QueueEntry} : old ∈ b.queue.entries → new.id = old.id →
      new.scope = old.scope → Effect b { b with queue := (b.queue.noteOverflow overflow).replace new }
  | cleared (now : Instant) : Effect b { b with queue := (b.queue.clearElapsed now).1 }
  | added (overflow : Bool) {new : QueueEntry} : new.id ∉ b.entryIds →
      (∀ p ∈ b.queue.byScope, p.1 ≠ new.scope.label) →
      Effect b ⟨(b.queue.noteOverflow overflow).add new, b.entryIds ++ [new.id]⟩
  | dropped {old : QueueEntry} : old ∈ b.queue.entries →
      Effect b { b with queue := b.queue.drop old }

structure Sound (b : Books) : Prop where
  unique : (b.queue.standings.map (·.id)).Nodup
  issued : ∀ s ∈ b.queue.standings, s.id ∈ b.entryIds
  indexed : Indexed b.queue.byScope b.queue.standings

theorem sound_empty (policy : CooldownPolicy) (maxAttempts : Nat) :
    Sound ⟨.empty policy maxAttempts, []⟩ :=
  ⟨List.nodup_nil, by simp [Queue.standings, Queue.empty], .empty⟩

variable {b after : Books}

theorem Sound.unique_ids (sound : b.Sound) : (b.queue.entries.map (·.id)).Nodup := by
  simpa [Queue.standings, Function.comp_def] using sound.unique

theorem Sound.find?_of_mem (sound : b.Sound) {e : QueueEntry} (member : e ∈ b.queue.entries) :
    b.queue.find? e.id = some e :=
  Keyed.find?_of_mem sound.unique_ids member

theorem Sound.idOfLabel?_of_mem (sound : b.Sound) {e : QueueEntry} (member : e ∈ b.queue.entries) :
    b.queue.idOfLabel? e.scope.label = some e.id := by
  have known := sound.indexed.mem_of_standing (List.mem_map_of_mem member)
  have first : b.queue.byScope.find? (·.1 = e.scope.label) = some (e.scope.label, e.id) :=
    Keyed.find?_of_mem sound.indexed.single known
  rw [Queue.idOfLabel?, first]
  rfl

/-- A label of the index leads to an entry with that label. -/
theorem Sound.find?_of_label (sound : b.Sound) {label : String} {id : EntryId}
    (known : b.queue.idOfLabel? label = some id) :
    ∃ e, b.queue.find? id = some e ∧ e.scope.label = label := by
  obtain ⟨s, member, rfl, same⟩ := (sound.indexed.mirror _ _).mp (Queue.mem_of_idOfLabel? known)
  obtain ⟨e, entry, rfl⟩ := Queue.mem_entries_of_standing member
  exact ⟨e, sound.find?_of_mem entry, same⟩

namespace Effect

/-- An entry stands for one with its identifier and its scope, or it is new. -/
theorem origin (effect : b.Effect after) {s : Standing} (member : s ∈ after.queue.standings) :
    (∃ old ∈ b.queue.standings, old.id = s.id ∧ old.scope = s.scope) ∨
      (s.id ∉ b.entryIds ∧ s.id ∈ after.entryIds) := by
  cases effect with
  | nothing => exact .inl ⟨s, member, rfl, rfl⟩
  | @changed _ old new entry id scope =>
    rw [Queue.standings_replace] at member
    rcases Keyed.mem_replaceBy.mp member with ⟨rfl, _⟩ | ⟨member, _⟩
    · exact .inl ⟨old.standing, List.mem_map_of_mem entry, id.symm, scope.symm⟩
    · exact .inl ⟨s, member, rfl, rfl⟩
  | cleared now =>
    rw [Queue.standings_clearElapsed] at member
    exact .inl ⟨s, member, rfl, rfl⟩
  | added _ fresh =>
    rw [Queue.standings_add] at member
    rcases List.mem_append.mp member with member | member
    · exact .inl ⟨s, member, rfl, rfl⟩
    · obtain rfl := List.mem_singleton.mp member
      exact .inr ⟨fresh, List.mem_append_right _ (List.mem_singleton_self _)⟩
  | dropped =>
    rw [Queue.standings_drop] at member
    exact .inl ⟨s, (List.mem_filter.mp member).1, rfl, rfl⟩

theorem ids_grow (effect : b.Effect after) : ∀ id ∈ b.entryIds, id ∈ after.entryIds := by
  cases effect with
  | added => exact fun id member => List.mem_append_left _ member
  | _ => exact fun id member => member

theorem sound (effect : b.Effect after) (before : b.Sound) : after.Sound where
  unique := by
    cases effect with
    | nothing => exact before.unique
    | changed =>
      rw [Queue.standings_replace, Keyed.map_key_replaceBy]
      exact before.unique
    | cleared =>
      rw [Queue.standings_clearElapsed]
      exact before.unique
    | @added _ new fresh =>
      rw [Queue.standings_add]
      refine Keyed.nodup_map_append before.unique fun s member (same : s.id = new.id) => ?_
      exact fresh (same ▸ before.issued s member)
    | dropped =>
      rw [Queue.standings_drop]
      exact before.unique.sublist (List.filter_sublist.map _)
  issued := by
    intro s member
    rcases effect.origin member with ⟨old, known, id, _⟩ | ⟨_, given⟩
    · exact effect.ids_grow _ (id ▸ before.issued old known)
    · exact given
  indexed := by
    cases effect with
    | nothing => exact before.indexed
    | changed _ entry id scope =>
      rw [Queue.standings_replace, Queue.labels_replace]
      exact before.indexed.settle _ (List.mem_map_of_mem entry) before.unique id
        (congrArg Scope.label scope)
    | cleared =>
      rw [Queue.standings_clearElapsed]
      exact before.indexed
    | @added _ new _ label =>
      rw [Queue.standings_add]
      exact before.indexed.add new.standing label
    | dropped entry =>
      rw [Queue.standings_drop]
      exact before.indexed.drop (List.mem_map_of_mem entry) before.unique

end Effect

end Books

/-- A queue with the claims that were taken and not yet released. -/
structure Ledger extends Books where
  claims : List Claim

/-- A call of the queue, with what it takes from outside. -/
inductive Queue.Call where
  | enqueue (failed : Task) (mode : RetryMode) (now : Instant) (fresh : EntryId) (draw : Nat)
  | claim (id : EntryId) (actor : String) (note : Option String) (force : Bool) (now : Instant)
  | attach (id : EntryId) (task : TaskId)
  | release (taken : Claim) (now : Instant)
  | recordRetryFailure (id : EntryId) (failed : Task) (now : Instant) (draw : Nat)
  | resolve (id : EntryId) (now : Instant)
  | remove (id : EntryId) (actor : Option String) (now : Instant)
  | setMode (id : EntryId) (mode : RetryMode) (actor : String) (now : Instant) (draw : Nat)
  | clearElapsed (now : Instant)
  deriving DecidableEq

namespace Queue

/-- The mutation that a call answers if it succeeds. -/
def toldOf : Except Refusal (Queue × Mutation) → List Mutation
  | .ok (_, m) => [m]
  | .error _ => []

/-- The mutations that a call answers, in order. -/
def mutations (q : Queue) : Call → List Mutation
  | .enqueue failed mode now fresh draw => toldOf (q.enqueue failed mode now fresh draw)
  | .claim id actor note force now =>
    match q.claim id actor note force now with
    | (_, .ok taken) => taken.mutations
    | (_, .error _) => []
  | .attach .. | .clearElapsed _ => []
  | .release taken now => (q.release taken now).2.toList
  | .recordRetryFailure id failed now draw => toldOf (q.recordRetryFailure id failed now draw)
  | .resolve id now => (q.resolve id now).2.toList
  | .remove id actor now => toldOf (q.remove id actor now)
  | .setMode id mode actor now draw => toldOf (q.setMode id mode actor now draw)

/-- The time that a call names. -/
def Call.time? : Call → Option Instant
  | .enqueue _ _ now _ _ | .claim _ _ _ _ now | .release _ now | .recordRetryFailure _ _ now _
  | .resolve _ now | .remove _ _ now | .setMode _ _ _ now _ | .clearElapsed now => some now
  | .attach .. => none

/-- A call that releases a claim releases one of these. -/
def Call.ReleasesFrom (claims : List Claim) : Call → Prop
  | .release taken _ => taken ∈ claims
  | _ => True

end Queue

namespace Ledger

def start (policy : CooldownPolicy) (maxAttempts : Nat) : Ledger :=
  ⟨⟨.empty policy maxAttempts, []⟩, []⟩

/-- The ledger after a call, whether the call succeeds or not. -/
def perform (l : Ledger) : Queue.Call → Ledger
  | .enqueue failed mode now fresh draw =>
    match l.queue.enqueue failed mode now fresh draw with
    | .error _ => l
    | .ok (queue, m) =>
      { l with queue, entryIds := if m.kind = .created then l.entryIds ++ [fresh] else l.entryIds }
  | .claim id actor note force now =>
    match l.queue.claim id actor note force now with
    | (queue, .error _) => { l with queue }
    | (queue, .ok taken) => { l with queue, claims := taken :: l.claims }
  | .attach id task =>
    match l.queue.attach id task with
    | .error _ => l
    | .ok queue => { l with queue }
  | .release taken now =>
    { l with queue := (l.queue.release taken now).1, claims := l.claims.erase taken }
  | .recordRetryFailure id failed now draw =>
    match l.queue.recordRetryFailure id failed now draw with
    | .error _ => l
    | .ok (queue, _) => { l with queue }
  | .resolve id now => { l with queue := (l.queue.resolve id now).1 }
  | .remove id actor now =>
    match l.queue.remove id actor now with
    | .error _ => l
    | .ok (queue, _) => { l with queue }
  | .setMode id mode actor now draw =>
    match l.queue.setMode id mode actor now draw with
    | .error _ => l
    | .ok (queue, _) => { l with queue }
  | .clearElapsed now => { l with queue := (l.queue.clearElapsed now).1 }

/-- A new entry gets an identifier of its own, and only claims that are out are released. -/
def Admits (l : Ledger) : Queue.Call → Prop
  | .enqueue _ _ _ fresh _ => fresh ∉ l.entryIds
  | .release taken _ => taken ∈ l.claims
  | _ => True

instance (l : Ledger) : (c : Queue.Call) → Decidable (l.Admits c)
  | .enqueue _ _ _ fresh _ => inferInstanceAs (Decidable (fresh ∉ l.entryIds))
  | .release taken _ => inferInstanceAs (Decidable (taken ∈ l.claims))
  | .claim .. | .attach .. | .recordRetryFailure .. | .resolve .. | .remove .. | .setMode ..
  | .clearElapsed .. => isTrue trivial

/-- The ledgers that sequences of calls lead to. -/
inductive Leads (start : Ledger) : List Queue.Call → Ledger → Prop where
  | refl : Leads start [] start
  | call {calls : List Queue.Call} {l : Ledger} (c : Queue.Call) :
      Leads start calls l → l.Admits c → Leads start (calls ++ [c]) (l.perform c)

/-- Claims remember entries as they are known. -/
structure Sound (l : Ledger) : Prop extends Books.Sound l.toBooks where
  known : ∀ taken ∈ l.claims, taken.previous.id ∈ l.entryIds
  scope : ∀ taken ∈ l.claims, ∀ s ∈ l.queue.standings, s.id = taken.previous.id →
    taken.previous.scope = s.scope

variable {l : Ledger}

/-! ### Steps of the calls -/

/-- How a call changes an entry in its place, and the mutations that tell of that. -/
inductive Revises (l : Ledger) (e : QueueEntry) : Queue.Call → QueueEntry → List Mutation → Prop where
  | failed {failed : Task} {mode : RetryMode} {now : Instant} {fresh : EntryId} {draw : Nat} :
      Revises l e (.enqueue failed mode now fresh draw) (l.queue.repeatedFailure e failed now draw)
        [⟨.updated, l.queue.repeatedFailure e failed now draw, none, now⟩]
  | retryFailed {id : EntryId} {failed : Task} {now : Instant} {draw : Nat} :
      Revises l e (.recordRetryFailure id failed now draw) (l.queue.retryFailed e failed now draw)
        [⟨.updated, l.queue.retryFailed e failed now draw, none, now⟩]
  | modeSet {id : EntryId} {mode : RetryMode} {actor : String} {now : Instant} {draw : Nat} :
      Revises l e (.setMode id mode actor now draw) (l.queue.withMode e mode now draw)
        [⟨.modeChanged, l.queue.withMode e mode now draw, some actor, now⟩]
  | claimed {id : EntryId} {actor : String} {note : Option String} {force : Bool} {now : Instant}
      {taken : QueueEntry} {first : List Mutation} : e.Taken force now taken →
      (∀ m ∈ first, m.kind = .modeChanged ∧ m.entry.id = e.id) →
      Revises l e (.claim id actor note force now) taken (first ++ [⟨.claimed, taken, some actor, now⟩])
  | refused {id : EntryId} {actor : String} {note : Option String} {force : Bool} {now : Instant} :
      Revises l e (.claim id actor note force now) (e.clearElapsed now) []
  | attached {id : EntryId} {task : TaskId} :
      Revises l e (.attach id task) { e with currentTask := some task } []
  | released {taken : Claim} {now : Instant} : taken.previous.id = e.id →
      Revises l e (.release taken now) (taken.previous.touch now)
        [⟨.released, taken.previous.touch now, none, now⟩]

/-- What a call does to entries and index, with the mutations that tell of it. -/
inductive Step (l : Ledger) : Queue.Call → List Mutation → Books → Prop where
  | idle {c : Queue.Call} : Step l c [] l.toBooks
  | revised (overflow : Bool) {c : Queue.Call} {e next : QueueEntry} {told : List Mutation} :
      e ∈ l.queue.entries → Revises l e c next told →
      Step l c told { l.toBooks with queue := (l.queue.noteOverflow overflow).replace next }
  | cleared (now : Instant) :
      Step l (.clearElapsed now) [] { l.toBooks with queue := (l.queue.clearElapsed now).1 }
  | created (overflow : Bool) {failed : Task} {mode : RetryMode} {now : Instant} {fresh : EntryId} {draw : Nat} :
      (∀ p ∈ l.queue.byScope, p.1 ≠ failed.scope.label) →
      Step l (.enqueue failed mode now fresh draw)
        [⟨.created, l.queue.newEntry fresh failed mode now draw, none, now⟩]
        ⟨(l.queue.noteOverflow overflow).add (l.queue.newEntry fresh failed mode now draw), l.entryIds ++ [fresh]⟩
  | dropped {c : Queue.Call} {old : QueueEntry} {m : Mutation} : old ∈ l.queue.entries →
      m.entry.id = old.id → m.kind = .resolved ∨ m.kind = .removed →
      Step l c [m] { l.toBooks with queue := l.queue.drop old }

theorem step_enqueue (failed : Task) (mode : RetryMode) (now : Instant) (fresh : EntryId) (draw : Nat) :
    l.Step (.enqueue failed mode now fresh draw) (l.queue.mutations (.enqueue failed mode now fresh draw))
      (l.perform (.enqueue failed mode now fresh draw)).toBooks := by
  by_cases status : failed.status = .failed
  · cases known : l.queue.idOfLabel? failed.scope.label with
    | none =>
      simp only [perform, Queue.mutations, Queue.enqueue_of_new_label status known, if_true]
      exact .created _ (Queue.idOfLabel?_eq_none.mp known)
    | some id =>
      simp only [perform, Queue.mutations, Queue.enqueue_of_label status known]
      cases found : l.queue.find? id with
      | none => exact .idle
      | some e =>
        simp only [reduceCtorEq, if_false]
        exact .revised _ (Queue.mem_of_find? found).1 .failed
  · simp only [perform, Queue.mutations, Queue.enqueue_of_not_failed status]
    exact .idle

theorem step_claim (id : EntryId) (actor : String) (note : Option String) (force : Bool) (now : Instant) :
    l.Step (.claim id actor note force now) (l.queue.mutations (.claim id actor note force now))
      (l.perform (.claim id actor note force now)).toBooks := by
  cases result : l.queue.claim id actor note force now with
  | mk queue answer =>
    cases answer with
    | error r =>
      simp only [perform, Queue.mutations, result]
      rcases Queue.claim_error result with rfl | ⟨e, found, _, rfl⟩
      · exact .idle
      · exact .revised false (Queue.mem_of_find? found).1 .refused
    | ok taken =>
      simp only [perform, Queue.mutations, result]
      obtain ⟨e, found, rfl, _, takes⟩ := Queue.claim_takes result
      obtain ⟨first, told, switched⟩ := Queue.claim_tells result
      obtain ⟨member, rfl⟩ := Queue.mem_of_find? found
      rw [told]
      exact .revised false member (.claimed takes switched)

theorem step_release (taken : Claim) (now : Instant) :
    l.Step (.release taken now) (l.queue.mutations (.release taken now))
      (l.perform (.release taken now)).toBooks := by
  simp only [perform, Queue.mutations, Queue.release]
  cases found : l.queue.find? taken.previous.id with
  | none => exact .idle
  | some e =>
    obtain ⟨member, same⟩ := Queue.mem_of_find? found
    exact .revised false member (.released same.symm)

/-- Every call takes one of these steps, whether it succeeds or not. -/
theorem step (l : Ledger) (c : Queue.Call) : l.Step c (l.queue.mutations c) (l.perform c).toBooks := by
  cases c with
  | enqueue failed mode now fresh draw => exact step_enqueue failed mode now fresh draw
  | claim id actor note force now => exact step_claim id actor note force now
  | release taken now => exact step_release taken now
  | attach id task =>
    simp only [perform, Queue.mutations, Queue.attach_eq]
    cases found : l.queue.find? id with
    | none => exact .idle
    | some e => exact .revised false (Queue.mem_of_find? found).1 .attached
  | recordRetryFailure id failed now draw =>
    simp only [perform, Queue.mutations, Queue.recordRetryFailure_eq]
    cases found : l.queue.find? id with
    | none => exact .idle
    | some e => exact .revised _ (Queue.mem_of_find? found).1 .retryFailed
  | resolve id now =>
    simp only [perform, Queue.mutations, Queue.resolve]
    cases found : l.queue.find? id with
    | none => exact .idle
    | some e => exact .dropped (Queue.mem_of_find? found).1 rfl (.inl rfl)
  | remove id actor now =>
    simp only [perform, Queue.mutations, Queue.remove_eq]
    cases found : l.queue.find? id with
    | none => exact .idle
    | some e => exact .dropped (Queue.mem_of_find? found).1 rfl (.inr rfl)
  | setMode id mode actor now draw =>
    simp only [perform, Queue.mutations, Queue.setMode_eq]
    cases found : l.queue.find? id with
    | none => exact .idle
    | some e => exact .revised _ (Queue.mem_of_find? found).1 .modeSet
  | clearElapsed now => exact .cleared now

theorem Step.ids_prefix {c : Queue.Call} {told : List Mutation} {after : Books}
    (step : l.Step c told after) : l.entryIds <+: after.entryIds := by
  cases step with
  | created => exact List.prefix_append ..
  | _ => exact List.prefix_refl _

/-- A call keeps identifier and scope of the entry that it changes. -/
theorem Revises.keeps {c : Queue.Call} {e next : QueueEntry} {told : List Mutation}
    (revises : l.Revises e c next told) (sound : l.Sound) (listed : c.ReleasesFrom l.claims)
    (member : e ∈ l.queue.entries) : next.id = e.id ∧ next.scope = e.scope := by
  cases revises with
  | failed | retryFailed | modeSet | attached => exact ⟨rfl, rfl⟩
  | claimed takes _ => exact ⟨congrArg Standing.id takes.standing, congrArg Standing.scope takes.standing⟩
  | @refused _ _ _ _ now =>
    have same := e.standing_clearElapsed now
    exact ⟨congrArg Standing.id same, congrArg Standing.scope same⟩
  | @released taken now same =>
    exact ⟨same, sound.scope taken listed e.standing (List.mem_map_of_mem member) same.symm⟩

/-- An identifier that was given by now was not given before. -/
def Renews (l : Ledger) (after : Books) : Prop := ∀ id, after.entryIds = l.entryIds ++ [id] → id ∉ l.entryIds

theorem Step.effect {c : Queue.Call} {told : List Mutation} {after : Books} (step : l.Step c told after)
    (sound : l.Sound) (listed : c.ReleasesFrom l.claims) (fresh : l.Renews after) : l.Effect after := by
  cases step with
  | idle => exact .nothing
  | revised _ member revises =>
    obtain ⟨id, scope⟩ := revises.keeps sound listed member
    exact .changed _ member id scope
  | cleared now => exact .cleared now
  | created _ label => exact .added _ (fresh _ rfl) label
  | dropped member => exact .dropped member

theorem Admits.listed {c : Queue.Call} (admits : l.Admits c) : c.ReleasesFrom l.claims := by
  cases c with
  | release => exact admits
  | _ => trivial

theorem Step.renews {c : Queue.Call} {told : List Mutation} {after : Books} (step : l.Step c told after)
    (admits : l.Admits c) : l.Renews after := by
  intro id given
  cases step with
  | created =>
    obtain rfl := List.singleton_inj.mp (List.append_cancel_left given)
    exact admits
  | _ => simp at given

theorem effect (sound : l.Sound) {c : Queue.Call} (admits : l.Admits c) :
    l.Effect (l.perform c).toBooks :=
  (l.step c).effect sound admits.listed ((l.step c).renews admits)

/-! ### Claims -/

/-- A claim that is out was out before, or a call has just taken it and remembers the entry as it was,
but for an ended cooldown. -/
theorem claims_origin {c : Queue.Call} {taken : Claim} (out : taken ∈ (l.perform c).claims) :
    taken ∈ l.claims ∨ ∃ e ∈ l.queue.entries, ∃ id actor note force now,
      c = .claim id actor note force now ∧ taken.previous = e.clearElapsed now := by
  cases c with
  | claim id actor note force now =>
    cases result : l.queue.claim id actor note force now with
    | mk queue answer =>
      cases answer with
      | error r =>
        simp only [perform, result] at out
        exact .inl out
      | ok new =>
        simp only [perform, result] at out
        rcases List.mem_cons.mp out with rfl | out
        · obtain ⟨e, found, _, _, previous, _⟩ := Queue.claim_ok result
          exact .inr ⟨e, (Queue.mem_of_find? found).1, id, actor, note, force, now, rfl, previous⟩
        · exact .inl out
  | release other now => exact .inl (List.mem_of_mem_erase out)
  | resolve id now | clearElapsed now => exact .inl out
  | _ =>
    simp only [perform] at out
    split at out <;> exact .inl out

/-- What a claim remembers has the standing of the entry that it took. -/
theorem standing_origin {c : Queue.Call} {taken : Claim} (out : taken ∈ (l.perform c).claims) :
    taken ∈ l.claims ∨ ∃ e ∈ l.queue.entries, taken.previous.standing = e.standing := by
  rcases claims_origin out with out | ⟨e, member, _, _, _, _, now, _, previous⟩
  · exact .inl out
  · exact .inr ⟨e, member, by rw [previous, e.standing_clearElapsed]⟩

theorem sound_start (policy : CooldownPolicy) (maxAttempts : Nat) :
    (start policy maxAttempts).Sound where
  toSound := Books.sound_empty policy maxAttempts
  known := by simp [start]
  scope := by simp [start]

theorem Sound.perform_of_effect (sound : l.Sound) {c : Queue.Call}
    (effect : l.Effect (l.perform c).toBooks) : (l.perform c).Sound := by
  have known : ∀ taken ∈ (l.perform c).claims, taken.previous.id ∈ l.entryIds := by
    intro taken out
    rcases standing_origin out with out | ⟨e, member, same⟩
    · exact sound.known taken out
    · have id : taken.previous.id = e.id := congrArg Standing.id same
      exact id ▸ sound.issued e.standing (List.mem_map_of_mem member)
  refine ⟨effect.sound sound.toSound, fun taken out => effect.ids_grow _ (known taken out), ?_⟩
  intro taken out s member same
  rcases effect.origin member with ⟨old, stood, id, scope⟩ | ⟨unknown, _⟩
  · rw [← scope]
    rcases standing_origin out with out | ⟨e, entry, remembered⟩
    · exact sound.scope taken out old stood (id.trans same)
    · have eq : old = e.standing := Keyed.eq_of_key sound.unique stood (List.mem_map_of_mem entry)
        ((id.trans same).trans (congrArg Standing.id remembered))
      rw [eq]
      exact congrArg Standing.scope remembered
  · exact absurd (same ▸ known taken out) unknown

theorem Sound.perform (sound : l.Sound) {c : Queue.Call} (admits : l.Admits c) :
    (l.perform c).Sound :=
  sound.perform_of_effect (effect sound admits)

theorem Leads.sound {start : Ledger} {calls : List Queue.Call} (h : Leads start calls l)
    (before : start.Sound) : l.Sound := by
  induction h with
  | refl => exact before
  | call c _ admits ih => exact ih.perform admits

end Ledger

end Reindexing
