import Reindexing.Proofs.Engine.Launching
import Reindexing.Proofs.Queue.Index

/-!
# Links between tasks and entries

What a task and an entry say of each other. `Linked` ties the active retry of an
entry to the scope of the entry and to the current task that it names, and keeps
idle entries from naming any; the index by label stays a mirror because no entry
changes its scope. `Rooted` says that the failed tasks on which an
entry rests exist and have failed. A claim remembers an entry as it was, so both
invariants also speak of the entries that pending claims would put back.
-/
namespace Reindexing

/-- The failed task that a section brings to the queue. -/
def Section.brings? : Section → Option Task
  | .recordRetryFailure _ failed => some failed
  | .enqueue failed => some failed
  | _ => none

/-- A task of this identifier has failed. -/
def View.HasFailed (v : View) (id : TaskId) : Prop := ∃ t ∈ v.tasks, t.id = id ∧ t.status = .failed

variable {v after : View} {s : Section} {next rest pending : List Section}

structure Linked (v : View) (pending : List Section) : Prop where
  scope : ∀ t ∈ v.tasks, ∀ e ∈ v.standings, t.retryOf = some e.id → t.scope = e.scope
  claimed : ∀ s ∈ pending, ∀ taken, s.held? = some taken → ∀ e ∈ v.standings,
    e.id = taken.previous.id → taken.previous.scope = e.scope
  idle : ∀ e ∈ v.standings, e.status ≠ .running → e.currentTask = none
  restored : ∀ s ∈ pending, ∀ taken, s.held? = some taken → taken.previous.currentTask = none
  current : ∀ t ∈ v.tasks, ∀ e ∈ v.standings, t.retries e.id = true →
    e.currentTask = some t.id ∨ .attach e.id t.id ∈ pending

structure Rooted (v : View) (pending : List Section) : Prop where
  roots : ∀ e ∈ v.standings, v.HasFailed e.originalTask ∧ v.HasFailed e.lastTask
  restored : ∀ s ∈ pending, ∀ taken, s.held? = some taken →
    v.HasFailed taken.previous.originalTask ∧ v.HasFailed taken.previous.lastTask
  brings : ∀ s ∈ pending, ∀ t, s.brings? = some t → t ∈ v.tasks ∧ t.status = .failed

/-! ### Scopes -/

theorem Issued.owned_of_held (issued : Issued v pending) (member : s ∈ pending) {taken : Claim}
    (held : s.held? = some taken) : s.owned? = some taken.previous.id := by
  cases s with
  | resubmit id c taken' =>
    cases held
    exact congrArg some (issued.claims id c taken member).symm
  | release => cases held; rfl
  | _ => cases held

theorem Issued.known_of_held (issued : Issued v pending) (member : s ∈ pending) {taken : Claim}
    (held : s.held? = some taken) : taken.previous.id ∈ v.entryIds :=
  issued.owned s member _ (issued.owned_of_held member held)

namespace Linked

/-- An entry has the scope of the entry in its place before, or is new. -/
theorem scope_origin (before : Linked v (s :: rest)) (move : Move v s after next)
    (distinct : after.Distinct) {e : Standing} (member : e ∈ after.standings) :
    (∃ old ∈ v.standings, old.id = e.id ∧ old.scope = e.scope) ∨ e.id ∉ v.entryIds := by
  rcases move.standing_origin member with ⟨old, oldMember, id, scope | ⟨taken, rfl, rfl⟩⟩ | ⟨_, new⟩
  · exact .inl ⟨old, oldMember, id, scope⟩
  · have same := before.claimed _ List.mem_cons_self taken rfl old oldMember id
    exact .inl ⟨old, oldMember, id, same.symm⟩
  · exact .inr (new distinct)

theorem scope_move (issued : Issued v (s :: rest)) (before : Linked v (s :: rest))
    (move : Move v s after next) (distinct : after.Distinct) :
    ∀ t ∈ after.tasks, ∀ e ∈ after.standings, t.retryOf = some e.id → t.scope = e.scope := by
  intro t task e member retried
  rcases before.scope_origin move distinct member with ⟨old, oldMember, id, scope⟩ | unknown
  · rw [← id] at retried
    rw [← scope]
    rcases move.task_origin task with
      ⟨u, task, _, scopeT, retryOf⟩ | ⟨_, nothing | ⟨taken, held, owned, scopeT⟩⟩
    · rw [← scopeT]
      exact before.scope u task old oldMember (retryOf.trans retried)
    · rw [nothing] at retried
      cases retried
    · rw [issued.owned_of_held List.mem_cons_self held] at owned
      have same : old.id = taken.previous.id := Option.some.inj (retried.symm.trans owned)
      have entry := (issued.sound s List.mem_cons_self taken held).entry
      have scopeE : taken.entry.scope = taken.previous.scope := congrArg Standing.scope entry
      rw [scopeT, scopeE]
      exact before.claimed s List.mem_cons_self taken held old oldMember same
  · exfalso
    rcases move.task_origin task with
      ⟨u, task, _, _, retryOf⟩ | ⟨_, nothing | ⟨taken, held, owned, _⟩⟩
    · exact unknown (issued.retries u task e.id (retryOf.trans retried))
    · rw [nothing] at retried
      cases retried
    · exact unknown (issued.owned s List.mem_cons_self e.id (owned.symm.trans retried))

theorem claimed_move (issued : Issued v (s :: rest)) (before : Linked v (s :: rest))
    (move : Move v s after next) (distinct : after.Distinct) :
    ∀ r ∈ next ++ rest, ∀ taken, r.held? = some taken → ∀ e ∈ after.standings,
      e.id = taken.previous.id → taken.previous.scope = e.scope := by
  intro r member taken held e entry same
  have stays : ∀ {r : Section}, r ∈ s :: rest → r.held? = some taken →
      taken.previous.scope = e.scope := by
    intro r member held
    rcases before.scope_origin move distinct entry with ⟨old, oldMember, id, scope⟩ | unknown
    · rw [← scope]
      exact before.claimed r member taken held old oldMember (id.trans same)
    · exact absurd (same ▸ issued.known_of_held member held) unknown
  rcases List.mem_append.mp member with member | member
  · rcases move.held_next member held with held | ⟨claimed, _⟩
    · exact stays List.mem_cons_self held
    · rcases before.scope_origin move distinct entry with ⟨old, oldMember, id, scope⟩ | unknown
      · have eq := Keyed.eq_of_key issued.unique.entries oldMember claimed (id.trans same)
        rw [← scope, eq]
        rfl
      · exact absurd (same ▸ issued.entries _ claimed) unknown
  · exact stays (List.mem_cons_of_mem s member) held

/-! ### Current tasks -/

theorem idle_move (issued : Issued v (s :: rest)) (custody : Custody v (s :: rest))
    (launching : Launching v (s :: rest)) (before : Linked v (s :: rest))
    (move : Move v s after next) :
    ∀ e ∈ after.standings, e.status ≠ .running → e.currentTask = none := by
  intro e member idle
  cases move with
  | claim =>
    rcases View.mem_settling.mp member with ⟨rfl, _⟩ | ⟨member, _⟩
    · exact absurd rfl idle
    · exact before.idle e member idle
  | release =>
    rcases View.mem_settling.mp member with ⟨rfl, _⟩ | ⟨member, _⟩
    · exact before.restored _ List.mem_cons_self _ rfl
    · exact before.idle e member idle
  | @attach old task oldMember =>
    rcases View.mem_settling.mp member with ⟨rfl, _⟩ | ⟨member, _⟩
    · -- The task waits for this very section, so it is active and the entry is running.
      obtain ⟨t, member, _, retries⟩ := launching.attached_retries List.mem_cons_self
      exact absurd (custody.running_of_retries member oldMember retries) idle
    · exact before.idle e member idle
  | retryFailed =>
    rcases View.mem_settling.mp member with ⟨rfl, _⟩ | ⟨member, _⟩
    · rfl
    · exact before.idle e member idle
  | enqueueNew =>
    rcases View.mem_opening.mp member with member | rfl
    · exact before.idle e member idle
    · rfl
  | @enqueueAgain failed old _ oldMember =>
    rcases View.mem_settling.mp member with ⟨rfl, _⟩ | ⟨member, _⟩
    · exact before.idle old oldMember idle
    · exact before.idle e member idle
  | resolve | remove => exact before.idle e (View.mem_dropping.mp member).1 idle
  | _ => exact before.idle e member idle

theorem restored_move (before : Linked v (s :: rest)) (move : Move v s after next) :
    ∀ r ∈ next ++ rest, ∀ taken, r.held? = some taken → taken.previous.currentTask = none := by
  intro r member taken held
  rcases List.mem_append.mp member with member | member
  · rcases move.held_next member held with held | ⟨claimed, idle, _⟩
    · exact before.restored s List.mem_cons_self taken held
    · exact before.idle _ claimed idle
  · exact before.restored r (List.mem_cons_of_mem s member) taken held

/-- A retry that was active before is still named by its entry, or still to be attached. -/
theorem current_stays (issued : Issued v (s :: rest)) (custody : Custody v (s :: rest))
    (launching : Launching v (s :: rest)) (before : Linked v (s :: rest))
    (move : Move v s after next) (distinct : after.Distinct) {t : Task} (task : t ∈ v.tasks)
    {e : Standing} (member : e ∈ after.standings) (retries : t.retries e.id = true) :
    e.currentTask = some t.id ∨ .attach e.id t.id ∈ rest := by
  have kept : ∀ {old : Standing}, old ∈ v.standings → old.id = e.id →
      e.currentTask = old.currentTask → s ≠ .attach e.id t.id →
      e.currentTask = some t.id ∨ .attach e.id t.id ∈ rest := by
    intro old member id same other
    rcases before.current t task old member (id ▸ retries) with current | attach
    · exact .inl (same.trans current)
    · rw [id] at attach
      rcases List.mem_cons.mp attach with eq | later
      · exact absurd eq.symm other
      · exact .inr later
  cases move with
  | claim old =>
    rcases View.mem_settling.mp member with ⟨rfl, _⟩ | ⟨member, _⟩
    · exact kept old rfl rfl (by simp)
    · exact kept member rfl rfl (by simp)
  | release | retryFailed =>
    rcases View.mem_settling.mp member with ⟨rfl, _⟩ | ⟨member, _⟩
    · exact absurd rfl (custody.unowned task retries List.mem_cons_self)
    · exact kept member rfl rfl (by simp)
  | @attach old id oldMember =>
    rcases View.mem_settling.mp member with ⟨rfl, _⟩ | ⟨member, other⟩
    · -- The task to be attached retries the entry as well, so it is the only one that does.
      obtain ⟨u, uTask, same, retries_u⟩ := launching.attached_retries List.mem_cons_self
      obtain rfl := custody.sole_retry task uTask retries retries_u
      exact .inl (congrArg some same.symm)
    · refine kept member rfl rfl fun eq => ?_
      rw [Section.attach.injEq] at eq
      exact other eq.1.symm
  | attachGone absent =>
    refine kept member rfl rfl fun eq => ?_
    cases eq
    exact absent e member rfl
  | enqueueNew =>
    rcases View.mem_opening.mp member with member | rfl
    · exact kept member rfl rfl (by simp)
    · simp only [Task.retries, Bool.and_eq_true, decide_eq_true_eq] at retries
      have known := issued.retries t task _ retries.2
      exact absurd known (Keyed.not_mem_of_nodup_append distinct.2)
  | enqueueAgain _ old =>
    rcases View.mem_settling.mp member with ⟨rfl, _⟩ | ⟨member, _⟩
    · exact kept old rfl rfl (by simp)
    · exact kept member rfl rfl (by simp)
  | resolve | remove => exact kept (View.mem_dropping.mp member).1 rfl rfl (by simp)
  | idle opening =>
    refine kept member rfl rfl fun eq => ?_
    rw [eq] at opening
    cases opening
  | _ => exact kept member rfl rfl (by simp)

theorem current_move (issued : Issued v (s :: rest)) (custody : Custody v (s :: rest))
    (launching : Launching v (s :: rest)) (before : Linked v (s :: rest))
    (move : Move v s after next) (distinct : after.Distinct) :
    ∀ t ∈ after.tasks, ∀ e ∈ after.standings, t.retries e.id = true →
      e.currentTask = some t.id ∨ .attach e.id t.id ∈ next ++ rest := by
  intro t task e member retries
  rcases move.retries_origin task retries with ⟨u, old, id, retries_u⟩ | attach
  · rw [← id]
    exact (before.current_stays issued custody launching move distinct old member retries_u).imp
      (fun current => current) (List.mem_append_right next)
  · exact .inr (List.mem_append_left rest attach)

theorem move (issued : Issued v (s :: rest)) (custody : Custody v (s :: rest))
    (launching : Launching v (s :: rest)) (before : Linked v (s :: rest))
    (move : Move v s after next) (distinct : after.Distinct) : Linked after (next ++ rest) where
  scope := before.scope_move issued move distinct
  claimed := before.claimed_move issued move distinct
  idle := before.idle_move issued custody launching move
  restored := before.restored_move move
  current := before.current_move issued custody launching move distinct

end Linked

/-! ### Labels -/

/-- No section moves an entry to another scope, so the index stays a mirror of the entries. -/
theorem Indexed.move (issued : Issued v (s :: rest)) (linked : Linked v (s :: rest))
    (before : Indexed v.labels v.standings) (move : Move v s after next) :
    Indexed after.labels after.standings := by
  have unique := issued.unique.entries
  cases move with
  | claim member | attach member | retryFailed member | enqueueAgain _ member =>
    exact before.settle _ member unique rfl rfl
  | release member same =>
    have scope := linked.claimed _ List.mem_cons_self _ rfl _ member same.symm
    exact before.settle _ member unique same (congrArg Scope.label scope)
  | enqueueNew _ fresh => exact before.add _ fresh
  | resolve member | remove member => exact before.drop member unique
  | _ => exact before

/-! ### Failed tasks -/

theorem Section.brings?_of_opening {s : Section} (opening : s.isOpening = true) :
    s.brings? = none := by
  cases s <;> first | rfl | cases opening

/-- A settlement brings the task that it settles, if that failed. -/
theorem Section.brings?_of_settlement {done t : Task} {r : Section} (member : r ∈ settlement done)
    (brings : r.brings? = some t) : t = done ∧ done.status = .failed := by
  rcases mem_settlement member with ⟨_, _, failed, rfl⟩ | ⟨_, _, rfl⟩ | ⟨failed, rfl⟩
  · cases brings
    exact ⟨rfl, failed⟩
  · cases brings
  · cases brings
    exact ⟨rfl, failed⟩

namespace Rooted

theorem failed_stays (unique : v.Unique) (move : Move v s after next) {id : TaskId}
    (failed : v.HasFailed id) : after.HasFailed id := by
  obtain ⟨t, member, same, status⟩ := failed
  obtain ⟨u, stays, _, _, _, frozen⟩ := move.task_stays unique member
  obtain rfl := frozen (by rw [status]; rfl)
  exact ⟨u, stays, same, status⟩

theorem roots_move (issued : Issued v (s :: rest)) (before : Rooted v (s :: rest))
    (move : Move v s after next) :
    ∀ e ∈ after.standings, after.HasFailed e.originalTask ∧ after.HasFailed e.lastTask := by
  intro e member
  suffices roots : v.HasFailed e.originalTask ∧ v.HasFailed e.lastTask from
    ⟨failed_stays issued.unique move roots.1, failed_stays issued.unique move roots.2⟩
  have brought : ∀ {t : Task}, s.brings? = some t → v.HasFailed t.id := by
    intro t brings
    obtain ⟨member, failed⟩ := before.brings s List.mem_cons_self t brings
    exact ⟨t, member, rfl, failed⟩
  cases move with
  | @claim c old taken oldMember | @attach old task oldMember =>
    rcases View.mem_settling.mp member with ⟨rfl, _⟩ | ⟨member, _⟩
    · exact before.roots old oldMember
    · exact before.roots e member
  | release =>
    rcases View.mem_settling.mp member with ⟨rfl, _⟩ | ⟨member, _⟩
    · exact before.restored _ List.mem_cons_self _ rfl
    · exact before.roots e member
  | @retryFailed old failed oldMember =>
    rcases View.mem_settling.mp member with ⟨rfl, _⟩ | ⟨member, _⟩
    · exact ⟨(before.roots old oldMember).1, brought rfl⟩
    · exact before.roots e member
  | @enqueueAgain failed old _ oldMember =>
    rcases View.mem_settling.mp member with ⟨rfl, _⟩ | ⟨member, _⟩
    · exact ⟨(before.roots old oldMember).1, brought rfl⟩
    · exact before.roots e member
  | enqueueNew =>
    rcases View.mem_opening.mp member with member | rfl
    · exact before.roots e member
    · exact ⟨brought rfl, brought rfl⟩
  | resolve | remove => exact before.roots e (View.mem_dropping.mp member).1
  | _ => exact before.roots e member

theorem brings_next (move : Move v s after next) {r : Section} (member : r ∈ next) {t : Task}
    (brings : r.brings? = some t) :
    s.brings? = some t ∨ (t ∈ after.tasks ∧ t.status = .failed) := by
  cases move with
  | @report old o now event oldMember =>
    obtain ⟨rfl, failed⟩ := Section.brings?_of_settlement member brings
    exact .inr ⟨View.mem_changing.mpr (.inl ⟨rfl, old, oldMember, by rw [Task.ended_id]⟩), failed⟩
  | retryFailedGone =>
    obtain rfl := List.mem_singleton.mp member
    exact .inl brings
  | sweep openings | scan openings =>
    rw [Section.brings?_of_opening (openings r member)] at brings
    cases brings
  | create | claim | resubmit | resubmitRefused | attach | attachGone =>
    obtain rfl := List.mem_singleton.mp member
    cases brings
  | _ => cases member

theorem move (issued : Issued v (s :: rest)) (before : Rooted v (s :: rest))
    (move : Move v s after next) : Rooted after (next ++ rest) := by
  refine ⟨before.roots_move issued move, ?_, ?_⟩
  · intro r member taken held
    have stays : ∀ {id : TaskId}, v.HasFailed id → after.HasFailed id :=
      failed_stays issued.unique move
    rcases List.mem_append.mp member with member | member
    · rcases move.held_next member held with held | ⟨claimed, _⟩
      · have roots := before.restored s List.mem_cons_self taken held
        exact ⟨stays roots.1, stays roots.2⟩
      · have roots := before.roots _ claimed
        exact ⟨stays roots.1, stays roots.2⟩
    · have roots := before.restored r (List.mem_cons_of_mem s member) taken held
      exact ⟨stays roots.1, stays roots.2⟩
  · intro r member t brings
    have stays : t ∈ v.tasks → t.status = .failed → t ∈ after.tasks := by
      intro task failed
      obtain ⟨u, stays, _, _, _, frozen⟩ := move.task_stays issued.unique task
      obtain rfl := frozen (by rw [failed]; rfl)
      exact stays
    rcases List.mem_append.mp member with member | member
    · rcases brings_next move member brings with brings | new
      · obtain ⟨task, failed⟩ := before.brings s List.mem_cons_self t brings
        exact ⟨stays task failed, failed⟩
      · exact new
    · obtain ⟨task, failed⟩ := before.brings r (List.mem_cons_of_mem s member) t brings
      exact ⟨stays task failed, failed⟩

end Rooted

end Reindexing
