import Reindexing.Proofs.Engine.Moves

/-!
# Custody of entries

A running entry must be somebody's business, or nothing would ever end its retry.
`holders` counts who answers for an entry: active tasks that retry it, and
sections still to be done that hold its claim or have its outcome to settle. The
invariant `Custody` says that nobody shares an entry and that exactly the running
entries have a holder. A move either hands the entry on or takes or gives up
custody together with the change of the status. `Issued` is the bookkeeping of
identifiers under it: an entry that is gone never comes back under its identifier.
-/
namespace Reindexing

namespace Section

/-- The entry whose running retry is the business of a section. -/
def owned? : Section → Option EntryId
  | .resubmit id .. => some id
  | .release taken => some taken.previous.id
  | .recordRetryFailure id _ => some id
  | .resolve id => some id
  | _ => none

/-- The claim that a section holds. -/
def held? : Section → Option Claim
  | .resubmit _ _ taken => some taken
  | .release taken => some taken
  | _ => none

theorem owned?_of_opening {s : Section} (opening : s.isOpening = true) : s.owned? = none := by
  cases s <;> first | rfl | cases opening

theorem held?_of_opening {s : Section} (opening : s.isOpening = true) : s.held? = none := by
  cases s <;> first | rfl | cases opening

end Section

theorem Section.held?_of_settlement (t : Task) : ∀ r ∈ settlement t, r.held? = none := by
  intro r member
  rcases mem_settlement member with ⟨_, _, _, rfl⟩ | ⟨_, _, rfl⟩ | ⟨_, rfl⟩ <;> rfl

/-- Whether a task is the retry of an entry and has not ended. -/
def Task.retries (t : Task) (id : EntryId) : Bool := t.status.isActive && decide (t.retryOf = some id)

/-- A claim that took the entry as it was before from idle to running. -/
structure Claim.Sound (taken : Claim) : Prop where
  idle : taken.previous.status ≠ .running
  entry : taken.entry.standing = { taken.previous.standing with status := .running }

/-- No identifier of a view was handed out twice. -/
def View.Distinct (v : View) : Prop := v.taskIds.Nodup ∧ v.entryIds.Nodup

variable {v after : View} {s : Section} {next rest pending : List Section}

/-! ### Identifiers -/

/-- Identifiers are unique, and whatever names one names one that was handed out. -/
structure Issued (v : View) (pending : List Section) : Prop where
  unique : v.Unique
  tasks : ∀ t ∈ v.tasks, t.id ∈ v.taskIds
  entries : ∀ s ∈ v.standings, s.id ∈ v.entryIds
  retries : ∀ t ∈ v.tasks, ∀ id, t.retryOf = some id → id ∈ v.entryIds
  owned : ∀ s ∈ pending, ∀ id, s.owned? = some id → id ∈ v.entryIds
  claims : ∀ id c taken, .resubmit id c taken ∈ pending → taken.previous.id = id
  sound : ∀ s ∈ pending, ∀ taken, s.held? = some taken → taken.Sound

namespace Issued

theorem fresh_task (issued : Issued v pending) {id : TaskId} (distinct : (v.taskIds ++ [id]).Nodup) :
    ∀ t ∈ v.tasks, t.id ≠ id := by
  rintro t member rfl
  exact Keyed.not_mem_of_nodup_append distinct (issued.tasks t member)

theorem fresh_entry (issued : Issued v pending) {id : EntryId}
    (distinct : (v.entryIds ++ [id]).Nodup) : ∀ e ∈ v.standings, e.id ≠ id := by
  rintro e member rfl
  exact Keyed.not_mem_of_nodup_append distinct (issued.entries e member)

end Issued

namespace View

theorem mem_changing {t u : Task} {event : HistoryEvent} :
    u ∈ (v.changing t event).tasks ↔
      (u = t ∧ ∃ old ∈ v.tasks, old.id = t.id) ∨ (u ∈ v.tasks ∧ u.id ≠ t.id) :=
  Keyed.mem_replaceBy

theorem mem_settling {e f : Standing} :
    f ∈ (v.settling e).standings ↔
      (f = e ∧ ∃ old ∈ v.standings, old.id = e.id) ∨ (f ∈ v.standings ∧ f.id ≠ e.id) :=
  Keyed.mem_replaceBy

theorem mem_dropping {e f : Standing} :
    f ∈ (v.dropping e).standings ↔ f ∈ v.standings ∧ f.id ≠ e.id := by
  simp [dropping]

theorem mem_opening {e f : Standing} :
    f ∈ (v.opening e).standings ↔ f ∈ v.standings ∨ f = e := by
  simp [opening]

end View

namespace Move

theorem taskIds_grow (move : Move v s after next) : ∀ id ∈ v.taskIds, id ∈ after.taskIds := by
  cases move with
  | create | resubmit => exact fun id member => List.mem_append_left _ member
  | _ => exact fun id member => member

theorem entryIds_grow (move : Move v s after next) : ∀ id ∈ v.entryIds, id ∈ after.entryIds := by
  cases move with
  | enqueueNew => exact fun id member => List.mem_append_left _ member
  | _ => exact fun id member => member

/-- A task after a move has its place and its reasons from a task before, or it is new; a new task
retries nothing, or the entry that the section has claimed. -/
theorem task_origin (move : Move v s after next) {t : Task} (member : t ∈ after.tasks) :
    (∃ old ∈ v.tasks, old.id = t.id ∧ old.scope = t.scope ∧ old.retryOf = t.retryOf) ∨
      (t.id ∈ after.taskIds ∧
        (t.retryOf = none ∨
          ∃ taken, s.held? = some taken ∧ t.retryOf = s.owned? ∧ t.scope = taken.entry.scope)) := by
  have placed : ∀ {old new : Task} {event : HistoryEvent}, old ∈ v.tasks → new.id = old.id →
      new.scope = old.scope → new.retryOf = old.retryOf → t ∈ (v.changing new event).tasks →
      ∃ old ∈ v.tasks, old.id = t.id ∧ old.scope = t.scope ∧ old.retryOf = t.retryOf := by
    intro old new event oldMember id scope retryOf member
    rcases View.mem_changing.mp member with ⟨rfl, _⟩ | ⟨member, _⟩
    · exact ⟨old, oldMember, id.symm, scope.symm, retryOf.symm⟩
    · exact ⟨t, member, rfl, rfl, rfl⟩
  cases move with
  | create _ retryOf =>
    rcases List.mem_append.mp member with member | member
    · exact .inl ⟨t, member, rfl, rfl, rfl⟩
    · obtain rfl := List.mem_singleton.mp member
      exact .inr ⟨by simp [View.adding], .inl retryOf⟩
  | resubmit _ retryOf scope =>
    rcases List.mem_append.mp member with member | member
    · exact .inl ⟨t, member, rfl, rfl, rfl⟩
    · obtain rfl := List.mem_singleton.mp member
      exact .inr ⟨by simp [View.adding], .inr ⟨_, rfl, retryOf, scope⟩⟩
  | start old => exact .inl (placed old (Task.started_id ..) rfl rfl member)
  | report old =>
    exact .inl (placed old (Task.ended_id ..) (Task.ended_scope ..) (Task.ended_retryOf ..) member)
  | _ => exact .inl ⟨t, member, rfl, rfl, rfl⟩

/-- Tasks stay, with the scope that they reindex and the entry that they retry; those that have
ended stay as they are. -/
theorem task_stays (unique : v.Unique) (move : Move v s after next) {t : Task} (member : t ∈ v.tasks) :
    ∃ u ∈ after.tasks, u.id = t.id ∧ u.scope = t.scope ∧ u.retryOf = t.retryOf ∧
      (t.status.isTerminal = true → u = t) := by
  have placed : ∀ {old new : Task} {event : HistoryEvent}, old ∈ v.tasks → new.id = old.id →
      new.scope = old.scope → new.retryOf = old.retryOf → old.status.isTerminal = false →
      ∃ u ∈ (v.changing new event).tasks, u.id = t.id ∧ u.scope = t.scope ∧ u.retryOf = t.retryOf ∧
        (t.status.isTerminal = true → u = t) := by
    intro old new event oldMember id scope retryOf active
    by_cases same : t.id = old.id
    · obtain rfl := Keyed.eq_of_key unique.tasks member oldMember same
      refine ⟨new, View.mem_changing.mpr (.inl ⟨rfl, t, member, id.symm⟩), id, scope, retryOf, ?_⟩
      intro terminal
      rw [active] at terminal
      cases terminal
    · have other : t.id ≠ new.id := fun h => same (h.trans id)
      exact ⟨t, View.mem_changing.mpr (.inr ⟨member, other⟩), rfl, rfl, rfl, fun _ => rfl⟩
  cases move with
  | create | resubmit => exact ⟨t, List.mem_append_left _ member, rfl, rfl, rfl, fun _ => rfl⟩
  | start old waiting =>
    refine placed old (Task.started_id ..) rfl rfl ?_
    simpa [TaskStatus.isActive] using TaskStatus.isActive_of_waiting waiting
  | report old running =>
    exact placed old (Task.ended_id ..) (Task.ended_scope ..) (Task.ended_retryOf ..)
      (by rw [running]; rfl)
  | _ => exact ⟨t, member, rfl, rfl, rfl, fun _ => rfl⟩

/-- An entry after a move has its place and its scope from an entry before, or it is put back as it
was claimed, or it is new. -/
theorem standing_origin (move : Move v s after next) {e : Standing} (member : e ∈ after.standings) :
    (∃ old ∈ v.standings, old.id = e.id ∧
      (old.scope = e.scope ∨ ∃ taken, s = .release taken ∧ e = taken.previous.standing)) ∨
      (e.id ∈ after.entryIds ∧ (after.Distinct → e.id ∉ v.entryIds)) := by
  have placed : ∀ {old new : Standing}, e ∈ (v.settling new).standings → old ∈ v.standings →
      new.id = old.id → new.scope = old.scope →
      ∃ old ∈ v.standings, old.id = e.id ∧
        (old.scope = e.scope ∨ ∃ taken, s = .release taken ∧ e = taken.previous.standing) := by
    intro old new member oldMember id scope
    rcases View.mem_settling.mp member with ⟨rfl, _⟩ | ⟨member, _⟩
    · exact ⟨old, oldMember, id.symm, .inl scope.symm⟩
    · exact ⟨e, member, rfl, .inl rfl⟩
  cases move with
  | claim old | attach old | retryFailed old | enqueueAgain _ old =>
    exact .inl (placed member old rfl rfl)
  | @release old taken oldMember same =>
    rcases View.mem_settling.mp member with ⟨rfl, _⟩ | ⟨member, _⟩
    · exact .inl ⟨old, oldMember, same.symm, .inr ⟨taken, rfl, rfl⟩⟩
    · exact .inl ⟨e, member, rfl, .inl rfl⟩
  | resolve | remove => exact .inl ⟨e, (View.mem_dropping.mp member).1, rfl, .inl rfl⟩
  | enqueueNew =>
    rcases View.mem_opening.mp member with member | rfl
    · exact .inl ⟨e, member, rfl, .inl rfl⟩
    · exact .inr ⟨by simp [View.opening], fun distinct => Keyed.not_mem_of_nodup_append distinct.2⟩
  | _ => exact .inl ⟨e, member, rfl, .inl rfl⟩

theorem keeps_unique (before : Issued v pending) (distinct : after.Distinct)
    (move : Move v s after next) : after.Unique := by
  cases move with
  | create | resubmit =>
    exact ⟨Keyed.nodup_map_append before.unique.tasks (before.fresh_task distinct.1),
      before.unique.entries⟩
  | start | report => exact ⟨by simpa [View.changing] using before.unique.tasks, before.unique.entries⟩
  | claim | release | attach | retryFailed | enqueueAgain =>
    exact ⟨before.unique.tasks, by simpa [View.settling] using before.unique.entries⟩
  | enqueueNew =>
    exact ⟨before.unique.tasks,
      Keyed.nodup_map_append before.unique.entries (before.fresh_entry distinct.2)⟩
  | resolve | remove =>
    refine ⟨before.unique.tasks, ?_⟩
    exact before.unique.entries.sublist (List.filter_sublist.map _)
  | _ => exact before.unique

/-- What a section leaves to do owns what the section owned, or what it claimed or ended. -/
theorem owned_next (before : Issued v (s :: rest)) (move : Move v s after next) :
    ∀ r ∈ next, ∀ id, r.owned? = some id → id ∈ v.entryIds := by
  intro r member id owned
  cases move with
  | sweep opening | scan opening =>
    rw [Section.owned?_of_opening (opening r member)] at owned
    cases owned
  | claim entry =>
    obtain rfl := List.mem_singleton.mp member
    cases owned
    exact before.entries _ entry
  | resubmitRefused =>
    obtain rfl := List.mem_singleton.mp member
    cases owned
    rw [before.claims _ _ _ List.mem_cons_self]
    exact before.owned _ List.mem_cons_self _ rfl
  | @report t o now _ task =>
    have retries : ∀ {entry}, (t.ended o now).retryOf = some entry → entry ∈ v.entryIds := by
      intro entry retried
      exact before.retries t task entry ((Task.ended_retryOf ..).symm.trans retried)
    rcases Section.mem_settlement member with ⟨_, retried, _, rfl⟩ | ⟨_, retried, rfl⟩ | ⟨_, rfl⟩
    · cases owned
      exact retries retried
    · cases owned
      exact retries retried
    · cases owned
  | create | resubmit | attach | attachGone | retryFailedGone =>
    obtain rfl := List.mem_singleton.mp member
    cases owned
  | _ => cases member

/-- A claim that is left to be dealt with was held already, or has just taken an idle entry. -/
theorem held_next (move : Move v s after next) {r : Section} (member : r ∈ next) {taken : Claim}
    (held : r.held? = some taken) :
    s.held? = some taken ∨
      (taken.previous.standing ∈ v.standings ∧ taken.previous.status ≠ .running ∧
        taken.entry.standing = { taken.previous.standing with status := .running }) := by
  cases move with
  | sweep openings | scan openings =>
    rw [Section.held?_of_opening (openings r member)] at held
    cases held
  | claim old idle previous entry =>
    obtain rfl := List.mem_singleton.mp member
    cases held
    subst previous
    exact .inr ⟨old, idle, entry⟩
  | resubmitRefused =>
    obtain rfl := List.mem_singleton.mp member
    exact .inl held
  | report =>
    rw [Section.held?_of_settlement _ r member] at held
    cases held
  | create | resubmit | attach | attachGone | retryFailedGone =>
    obtain rfl := List.mem_singleton.mp member
    cases held
  | _ => cases member

/-- A section that is to resubmit an entry holds the claim of that entry. -/
theorem resubmit_next (move : Move v s after next) {id : EntryId} {c : RetryCommand} {taken : Claim}
    (member : .resubmit id c taken ∈ next) : taken.previous.id = id := by
  cases move with
  | sweep openings | scan openings => cases openings _ member
  | claim _ _ previous =>
    cases List.mem_singleton.mp member
    exact congrArg Standing.id previous
  | report => cases Section.held?_of_settlement _ _ member
  | _ => simp at member

end Move

theorem Issued.move (before : Issued v (s :: rest)) (move : Move v s after next)
    (distinct : after.Distinct) : Issued after (next ++ rest) := by
  have later : ∀ {r : Section}, r ∈ rest → r ∈ s :: rest := List.mem_cons_of_mem s
  constructor
  · exact move.keeps_unique before distinct
  · intro t member
    rcases move.task_origin member with ⟨old, member, id, _⟩ | ⟨new, _⟩
    · exact move.taskIds_grow _ (id ▸ before.tasks old member)
    · exact new
  · intro e member
    rcases move.standing_origin member with ⟨old, member, id, _⟩ | ⟨new, _⟩
    · exact move.entryIds_grow _ (id ▸ before.entries old member)
    · exact new
  · intro t member id retried
    rcases move.task_origin member with ⟨old, member, _, _, retryOf⟩ | ⟨_, none | ⟨_, _, owned, _⟩⟩
    · exact move.entryIds_grow _ (before.retries old member id (retryOf.trans retried))
    · rw [none] at retried
      cases retried
    · exact move.entryIds_grow _ (before.owned s List.mem_cons_self id (owned.symm.trans retried))
  · intro r member id owned
    rcases List.mem_append.mp member with member | member
    · exact move.entryIds_grow _ (move.owned_next before r member id owned)
    · exact move.entryIds_grow _ (before.owned r (later member) id owned)
  · intro id c taken member
    rcases List.mem_append.mp member with member | member
    · exact move.resubmit_next member
    · exact before.claims id c taken (later member)
  · intro r member taken held
    rcases List.mem_append.mp member with member | member
    · rcases move.held_next member held with held | ⟨_, idle, entry⟩
      · exact before.sound s List.mem_cons_self taken held
      · exact ⟨idle, entry⟩
    · exact before.sound r (later member) taken held

/-! ### Holders -/

/-- How many tasks and sections answer for an entry. -/
def holders (v : View) (pending : List Section) (id : EntryId) : Nat :=
  v.tasks.countP (·.retries id) + pending.countP fun s => decide (s.owned? = some id)

/-- No entry has two holders, and exactly the running entries have one. -/
structure Custody (v : View) (pending : List Section) : Prop where
  single : ∀ id, holders v pending id ≤ 1
  running : ∀ e ∈ v.standings, e.status = .running ↔ holders v pending e.id = 1

namespace Section

/-- The entry that a section wants to take custody of. -/
def takes? : Section → Option EntryId
  | .claim id _ => some id
  | _ => none

/-- The entry whose custody ends with a section. -/
def ends? : Section → Option EntryId
  | .release taken => some taken.previous.id
  | .recordRetryFailure id _ => some id
  | .resolve id => some id
  | _ => none

theorem ends?_of_opening {s : Section} (opening : s.isOpening = true) : s.ends? = none := by
  cases s <;> first | rfl | cases opening

end Section

theorem holders_cons (v : View) (s : Section) (rest : List Section) (id : EntryId) :
    holders v (s :: rest) id = holders v rest id + if s.owned? = some id then 1 else 0 := by
  simp only [holders, List.countP_cons, decide_eq_true_eq]
  omega

theorem holders_append (v : View) (next rest : List Section) (id : EntryId) :
    holders v (next ++ rest) id =
      holders v rest id + next.countP fun s => decide (s.owned? = some id) := by
  simp only [holders, List.countP_append]
  omega

theorem holders_adding (v : View) (t : Task) (event : HistoryEvent) (id : EntryId) :
    holders (v.adding t event) pending id =
      holders v pending id + if t.retries id then 1 else 0 := by
  simp only [holders, View.adding, List.countP_append, List.countP_singleton]
  omega

theorem holders_changing (pending : List Section) (unique : v.Unique) {old new : Task} (member : old ∈ v.tasks)
    (same : new.id = old.id) (event : HistoryEvent) (id : EntryId) :
    holders (v.changing new event) pending id + (if old.retries id then 1 else 0) =
      holders v pending id + if new.retries id then 1 else 0 := by
  have count : (Keyed.replaceBy (fun t : Task => t.id) new v.tasks).countP (·.retries id) + _ = _ :=
    Keyed.countP_replaceBy unique.tasks member same.symm (·.retries id)
  simp only [holders, View.changing]
  omega

theorem Task.retries_of_active {t : Task} (active : t.status.isActive = true) (id : EntryId) :
    t.retries id = decide (t.retryOf = some id) := by
  simp [retries, active]

theorem Task.retries_ended (t : Task) (o : Outcome) (now : Instant) (id : EntryId) :
    (t.ended o now).retries id = false := by
  simp [retries, TaskStatus.not_active_of_terminal o.status_terminal]

/-- An active retry of an entry was one before, or is to be attached to the entry next. -/
theorem Move.retries_origin (move : Move v s after next) {t : Task} (task : t ∈ after.tasks)
    {id : EntryId} (retries : t.retries id = true) :
    (∃ u ∈ v.tasks, u.id = t.id ∧ u.retries id = true) ∨ .attach id t.id ∈ next := by
  cases move with
  | create _ retryOf =>
    rcases List.mem_append.mp task with task | task
    · exact .inl ⟨t, task, rfl, retries⟩
    · obtain rfl := List.mem_singleton.mp task
      simp [Task.retries, retryOf] at retries
  | resubmit _ retryOf =>
    rcases List.mem_append.mp task with task | task
    · exact .inl ⟨t, task, rfl, retries⟩
    · obtain rfl := List.mem_singleton.mp task
      simp only [Task.retries, retryOf, Bool.and_eq_true, decide_eq_true_eq] at retries
      obtain rfl := Option.some.inj retries.2
      exact .inr List.mem_cons_self
  | start old waiting =>
    rcases View.mem_changing.mp task with ⟨rfl, _⟩ | ⟨task, _⟩
    · refine .inl ⟨_, old, rfl, ?_⟩
      rw [Task.retries_of_active (TaskStatus.isActive_of_waiting waiting)]
      rwa [Task.retries_of_active rfl] at retries
    · exact .inl ⟨t, task, rfl, retries⟩
  | report =>
    rcases View.mem_changing.mp task with ⟨rfl, _⟩ | ⟨task, _⟩
    · rw [Task.retries_ended] at retries
      cases retries
    · exact .inl ⟨t, task, rfl, retries⟩
  | _ => exact .inl ⟨t, task, rfl, retries⟩

/-- The settlement of an ended retry owns the entry that the task retried. -/
theorem Section.countP_settlement (t : Task) (id : EntryId) :
    ((settlement t).countP fun s => decide (s.owned? = some id)) =
      if t.retryOf = some id then 1 else 0 := by
  unfold settlement
  split
  · next entry retried =>
    rw [retried]
    split <;> simp [owned?, List.countP_cons]
  · next none =>
    rw [none]
    split <;> simp [owned?]

theorem Section.countP_openings (openings : ∀ r ∈ next, r.isOpening = true) (id : EntryId) :
    (next.countP fun s => decide (s.owned? = some id)) = 0 := by
  rw [List.countP_eq_zero]
  intro r member
  simp [owned?_of_opening (openings r member)]

/-- Custody passes from section to task and from task to section. Only a claim takes it, and only
a rollback or the settlement of an outcome gives it up. -/
theorem Move.balance (issued : Issued v (s :: rest)) (move : Move v s after next) (id : EntryId) :
    holders after (next ++ rest) id + (if s.ends? = some id then 1 else 0) =
      holders v (s :: rest) id + if s.takes? = some id ∧ next ≠ [] then 1 else 0 := by
  rw [holders_append, holders_cons]
  cases move with
  | idle opening =>
    simp [Section.owned?_of_opening opening, Section.ends?_of_opening opening]
  | sweep openings | scan openings =>
    rw [Section.countP_openings openings]
    simp [Section.owned?, Section.ends?, Section.takes?]
  | create waiting retryOf =>
    rw [holders_adding, Task.retries_of_active (TaskStatus.isActive_of_waiting waiting), retryOf]
    simp [Section.owned?, Section.ends?, Section.takes?]
  | @start t now event member waiting =>
    have count := holders_changing rest issued.unique member (t.started_id now) event id
    rw [Task.retries_of_active (TaskStatus.isActive_of_waiting waiting),
      Task.retries_of_active rfl, Task.started_retryOf] at count
    simp [Section.owned?, Section.ends?, Section.takes?] at count ⊢
    omega
  | resubmit waiting retryOf =>
    rw [holders_adding, Task.retries_of_active (TaskStatus.isActive_of_waiting waiting), retryOf]
    simp [Section.owned?, Section.ends?, Section.takes?]
  | @report t o now event member running =>
    have count := holders_changing rest issued.unique member (t.ended_id o now) event id
    rw [Task.retries_of_active (by rw [running]; rfl), Task.retries_ended] at count
    rw [Section.countP_settlement, Task.ended_retryOf]
    simp [Section.owned?, Section.ends?, Section.takes?] at count ⊢
    omega
  | resubmitRefused =>
    have same := issued.claims _ _ _ List.mem_cons_self
    simp [Section.owned?, Section.ends?, Section.takes?, same]
  | _ =>
    simp [Section.owned?, Section.ends?, Section.takes?, holders, View.settling, View.opening,
      View.dropping]

namespace Move

theorem holders_same (issued : Issued v (s :: rest)) (move : Move v s after next) {id : EntryId}
    (stays : s.ends? ≠ some id) (unclaimed : s.takes? ≠ some id ∨ next = []) :
    holders after (next ++ rest) id = holders v (s :: rest) id := by
  have balance := move.balance issued id
  have unclaimed : ¬ (s.takes? = some id ∧ next ≠ []) := by
    rintro ⟨takes, more⟩
    exact unclaimed.elim (· takes) more
  rwa [if_neg stays, if_neg unclaimed] at balance

theorem holders_taken (issued : Issued v (s :: rest)) (move : Move v s after next) {id : EntryId}
    (takes : s.takes? = some id) (more : next ≠ []) :
    holders after (next ++ rest) id = holders v (s :: rest) id + 1 := by
  have balance := move.balance issued id
  have stays : s.ends? ≠ some id := by
    cases s <;> simp [Section.takes?, Section.ends?] at takes ⊢
  rwa [if_neg stays, if_pos ⟨takes, more⟩] at balance

theorem holders_ended (issued : Issued v (s :: rest)) (move : Move v s after next) {id : EntryId}
    (ends : s.ends? = some id) :
    holders after (next ++ rest) id + 1 = holders v (s :: rest) id := by
  have balance := move.balance issued id
  have unclaimed : s.takes? ≠ some id := by
    cases s <;> simp [Section.takes?, Section.ends?] at ends ⊢
  rwa [if_pos ends, if_neg fun h => unclaimed h.1] at balance

end Move

theorem holders_eq_zero (issued : Issued v pending) {id : EntryId} (unknown : id ∉ v.entryIds) :
    holders v pending id = 0 := by
  have no_task : v.tasks.countP (·.retries id) = 0 := by
    rw [List.countP_eq_zero]
    intro t member retries
    simp only [Task.retries, Bool.and_eq_true, decide_eq_true_eq] at retries
    exact unknown (issued.retries t member id retries.2)
  have no_section : (pending.countP fun s => decide (s.owned? = some id)) = 0 := by
    rw [List.countP_eq_zero]
    intro r member owned
    exact unknown (issued.owned r member id (of_decide_eq_true owned))
  rw [holders, no_task, no_section]

/-- An idle entry has no holder. -/
theorem Custody.holders_of_idle (custody : Custody v pending) {e : Standing} (member : e ∈ v.standings)
    (idle : e.status ≠ .running) : holders v pending e.id = 0 := by
  have at_most := custody.single e.id
  have not_one : holders v pending e.id ≠ 1 := fun one => idle ((custody.running e member).mpr one)
  omega

namespace Custody

/-- Two active retries of one entry are the same task. -/
theorem sole_retry (custody : Custody v pending) {t u : Task} {id : EntryId} (ht : t ∈ v.tasks)
    (hu : u ∈ v.tasks) (retries_t : t.retries id = true) (retries_u : u.retries id = true) : t = u := by
  have at_most := custody.single id
  have few : v.tasks.countP (·.retries id) ≤ 1 := by
    rw [holders] at at_most
    omega
  exact Keyed.eq_of_countP_le_one few ht hu retries_t retries_u

/-- While an active task retries an entry, no section owns the entry. -/
theorem unowned (custody : Custody v pending) {t : Task} (task : t ∈ v.tasks) {id : EntryId}
    (retries : t.retries id = true) (member : s ∈ pending) : s.owned? ≠ some id := by
  intro owned
  have at_most := custody.single id
  have some_task : 0 < v.tasks.countP (·.retries id) :=
    List.countP_pos_iff.mpr ⟨t, task, retries⟩
  have some_section : 0 < pending.countP fun s => decide (s.owned? = some id) :=
    List.countP_pos_iff.mpr ⟨s, member, decide_eq_true owned⟩
  rw [holders] at at_most
  omega

theorem running_of_retries (custody : Custody v pending) {t : Task} {e : Standing}
    (task : t ∈ v.tasks) (member : e ∈ v.standings) (retries : t.retries e.id = true) :
    e.status = .running := by
  have at_most := custody.single e.id
  have some_task : 0 < v.tasks.countP (·.retries e.id) :=
    List.countP_pos_iff.mpr ⟨t, task, retries⟩
  refine (custody.running e member).mpr ?_
  rw [holders] at at_most ⊢
  omega

end Custody

/-- No entry gets a second holder, because a claim finds the entry idle. -/
theorem Custody.single_move (issued : Issued v (s :: rest)) (before : Custody v (s :: rest))
    (move : Move v s after next) (id : EntryId) : holders after (next ++ rest) id ≤ 1 := by
  have at_most := before.single id
  by_cases took : s.takes? = some id ∧ next ≠ []
  · rw [move.holders_taken issued took.1 took.2]
    cases move with
    | claim member idle =>
      obtain ⟨takes, _⟩ := took
      cases takes
      have none_before := before.holders_of_idle member idle
      omega
    | _ => simp [Section.takes?] at took
  · have balance := move.balance issued id
    rw [if_neg took] at balance
    omega

/-- A move keeps custody. Where a section takes an entry or gives it up, it changes the status of
the entry in the same step. -/
theorem Custody.move (issued : Issued v (s :: rest)) (before : Custody v (s :: rest))
    (move : Move v s after next) (distinct : after.Distinct) : Custody after (next ++ rest) := by
  refine ⟨before.single_move issued move, ?_⟩
  intro e member
  have same : s.ends? ≠ some e.id → (s.takes? ≠ some e.id ∨ next = []) →
      holders after (next ++ rest) e.id = holders v (s :: rest) e.id :=
    move.holders_same issued
  -- Entries that the section has nothing to do with keep both sides of the equivalence.
  have kept : ∀ {old : Standing}, old ∈ v.standings → old.id = e.id → old.status = e.status →
      s.ends? ≠ some e.id → (s.takes? ≠ some e.id ∨ next = []) →
      (e.status = .running ↔ holders after (next ++ rest) e.id = 1) := by
    intro old member id status stays unclaimed
    rw [same stays unclaimed, ← id, ← status]
    exact before.running old member
  have claimed : s.takes? = some e.id → next ≠ [] → holders v (s :: rest) e.id = 0 →
      holders after (next ++ rest) e.id = 1 := by
    intro takes more nobody
    rw [move.holders_taken issued takes more, nobody]
  have released : s.ends? = some e.id → e.status ≠ .running →
      (e.status = .running ↔ holders after (next ++ rest) e.id = 1) := by
    intro ends idle
    have balance := move.holders_ended issued ends
    have at_most := before.single e.id
    exact iff_of_false idle (by omega)
  cases move with
  | @claim c old taken oldMember idle =>
    rcases View.mem_settling.mp member with ⟨rfl, _⟩ | ⟨member, other⟩
    · have nobody := before.holders_of_idle oldMember idle
      exact iff_of_true rfl (claimed rfl nofun nobody)
    · exact kept member rfl rfl nofun (.inl fun h => other (Option.some.inj h).symm)
  | @release old taken oldMember same =>
    rcases View.mem_settling.mp member with ⟨rfl, _⟩ | ⟨member, other⟩
    · exact released rfl (issued.sound _ List.mem_cons_self taken rfl).idle
    · exact kept member rfl rfl (fun h => other (Option.some.inj h).symm) (.inl nofun)
  | @retryFailed old failed oldMember =>
    rcases View.mem_settling.mp member with ⟨rfl, _⟩ | ⟨member, other⟩
    · exact released rfl nofun
    · exact kept member rfl rfl (fun h => other (Option.some.inj h).symm) (.inl nofun)
  | attach oldMember | enqueueAgain _ oldMember =>
    rcases View.mem_settling.mp member with ⟨rfl, _⟩ | ⟨member, _⟩
    · exact kept oldMember rfl rfl nofun (.inl nofun)
    · exact kept member rfl rfl nofun (.inl nofun)
  | enqueueNew =>
    rcases View.mem_opening.mp member with member | rfl
    · exact kept member rfl rfl nofun (.inl nofun)
    · have unknown := Keyed.not_mem_of_nodup_append distinct.2
      have nobody := (same nofun (.inl nofun)).trans (holders_eq_zero issued unknown)
      exact iff_of_false nofun (by rw [nobody]; decide)
  | releaseGone absent | retryFailedGone absent | resolveGone absent =>
    exact kept member rfl rfl (fun h => absent e member (Option.some.inj h).symm) (.inl nofun)
  | @resolve old oldMember =>
    obtain ⟨member, other⟩ := View.mem_dropping.mp member
    exact kept member rfl rfl (fun h => other (Option.some.inj h).symm) (.inl nofun)
  | remove => exact kept (View.mem_dropping.mp member).1 rfl rfl nofun (.inl nofun)
  | idle opening =>
    exact kept member rfl rfl (by simp [Section.ends?_of_opening opening]) (.inr rfl)
  | _ => exact kept member rfl rfl nofun (.inl nofun)

end Reindexing
