import Reindexing.Proofs.Engine.Coherence

/-!
# The latest failure of a scope

Between calls the last task of an entry is the one that failed last under the
label of the entry. Within a call that is not so: once a task has failed and
until its failure is recorded, the entry of its label lags behind. `Settled` says
this for a run in which each section is followed at once by what it leaves to do;
the section that is next, if it brings a failure, is the only one that owes an
entry anything. Sections of other calls in between would break it.
-/
namespace Reindexing

/-- The task failed last, by the sequence of events, of all tasks whose scope has the label. -/
def Registry.FailedLast (r : Registry) (label : String) (id : TaskId) : Prop :=
  ∃ event ∈ r.history.events, event.task = id ∧ event.status = .failed ∧
    (∃ t ∈ r.tasks, t.id = id ∧ t.scope.label = label) ∧
    ∀ other ∈ r.history.events, other.status = .failed → ∀ t ∈ r.tasks, t.id = other.task →
      t.scope.label = label → other.sequence ≤ event.sequence

def View.FailedLast (v : View) (label : String) (id : TaskId) : Prop :=
  Registry.FailedLast ⟨v.tasks, ⟨v.events, []⟩⟩ label id

/-- The failure that the next section is to record. -/
def owed? (todo : List Section) : Option Task := todo.head?.bind Section.brings?

variable {v after : View} {s : Section} {next rest todo : List Section}

/-- Events belong to tasks and are numbered, and every entry knows the latest failure of its label,
except for the one that is being recorded. -/
structure Settled (v : View) (todo : List Section) : Prop where
  openings : ∀ s ∈ todo.tail, s.isOpening = true
  numbered : ∀ event ∈ v.events, event.sequence < v.events.length
  known : ∀ event ∈ v.events, ∃ t ∈ v.tasks, t.id = event.task
  retried : ∀ id t, .recordRetryFailure id t ∈ todo → t.retryOf = some id
  restored : ∀ s ∈ todo, ∀ taken, s.held? = some taken → ∀ e ∈ v.standings,
    e.id = taken.previous.id → taken.previous.lastTask = e.lastTask
  owed : ∀ t, owed? todo = some t → v.FailedLast t.scope.label t.id
  latest : ∀ e ∈ v.standings, (∀ t, owed? todo = some t → t.scope.label ≠ e.scope.label) →
    v.FailedLast e.scope.label e.lastTask

theorem owed?_of_openings (openings : ∀ r ∈ todo, r.isOpening = true) : owed? todo = none := by
  cases todo with
  | nil => rfl
  | cons r rest => exact Section.brings?_of_opening (openings r List.mem_cons_self)

theorem owed?_append (openings : ∀ r ∈ rest, r.isOpening = true) : owed? (next ++ rest) = owed? next := by
  cases next with
  | nil => exact owed?_of_openings openings
  | cons r tail => rfl

theorem owed?_of_settlement {done t : Task} (owes : owed? (Section.settlement done) = some t) :
    t = done ∧ done.status = .failed := by
  obtain ⟨s, first, brings⟩ := Option.bind_eq_some_iff.mp owes
  exact Section.brings?_of_settlement (List.mem_of_mem_head? first) brings

theorem owed?_settlement_of_failed {done : Task} (failed : done.status = .failed) :
    owed? (Section.settlement done) = some done := by
  unfold Section.settlement
  split <;> simp [failed, owed?, Section.brings?]

namespace Move

theorem events_grow (move : Move v s after next) : ∀ event ∈ v.events, event ∈ after.events := by
  cases move with
  | create | resubmit | start | report => exact fun event member => List.mem_append_left _ member
  | _ => exact fun event member => member

/-- A move records at most one event, with the next number, about a task as it is then. The event of
a failure leaves the failure to be recorded in the queue. -/
theorem new_event (move : Move v s after next) :
    after.events = v.events ∨ ∃ event, after.events = v.events ++ [event] ∧
      event.sequence = v.events.length ∧ ∃ t ∈ after.tasks, t.id = event.task ∧
        t.status = event.status ∧ (t.status = .failed → owed? next = some t) := by
  cases move with
  | @create c t event waiting _ records | @resubmit id c taken t event waiting _ _ records =>
    obtain ⟨sequence, task, status⟩ := records
    refine .inr ⟨event, rfl, sequence, t, by simp [View.adding], task.symm, status.symm, ?_⟩
    intro failed
    rw [failed] at waiting
    cases waiting
  | @start t now event member _ records =>
    obtain ⟨sequence, task, status⟩ := records
    refine .inr ⟨event, rfl, sequence, t.started now, ?_, task.symm, status.symm, by simp⟩
    exact View.mem_changing.mpr (.inl ⟨rfl, t, member, rfl⟩)
  | @report t o now event member _ records =>
    obtain ⟨sequence, task, status⟩ := records
    refine .inr ⟨event, rfl, sequence, t.ended o now, ?_, ?_, ?_, owed?_settlement_of_failed⟩
    · exact View.mem_changing.mpr (.inl ⟨rfl, t, member, (Task.ended_id ..).symm⟩)
    · rw [Task.ended_id, task]
    · rw [Task.ended_status, status]
  | _ => exact .inl rfl

end Move

namespace Settled

theorem numbered_move (before : Settled v (s :: rest)) (move : Move v s after next) :
    ∀ event ∈ after.events, event.sequence < after.events.length := by
  intro event member
  rcases move.new_event with same | ⟨new, added, sequence, _⟩
  · rw [same] at member ⊢
    exact before.numbered event member
  · rw [added] at member ⊢
    rw [List.length_append, List.length_singleton]
    rcases List.mem_append.mp member with member | member
    · exact Nat.lt_succ_of_lt (before.numbered event member)
    · obtain rfl := List.mem_singleton.mp member
      omega

theorem known_move (unique : v.Unique) (before : Settled v (s :: rest))
    (move : Move v s after next) : ∀ event ∈ after.events, ∃ t ∈ after.tasks, t.id = event.task := by
  have kept : ∀ event ∈ v.events, ∃ t ∈ after.tasks, t.id = event.task := by
    intro event member
    obtain ⟨t, task, same⟩ := before.known event member
    obtain ⟨u, stays, id, _⟩ := move.task_stays unique task
    exact ⟨u, stays, id.trans same⟩
  intro event member
  rcases move.new_event with same | ⟨new, added, _, t, task, id, _⟩
  · exact kept event (same ▸ member)
  · rw [added] at member
    rcases List.mem_append.mp member with member | member
    · exact kept event member
    · obtain rfl := List.mem_singleton.mp member
      exact ⟨t, task, id⟩

/-- The latest failure of a label stays the latest, unless a failure of the label is to be
recorded next. -/
theorem failedLast_move (issued : Issued v (s :: rest)) (before : Settled v (s :: rest))
    (move : Move v s after next) (distinct : after.Distinct) {label : String} {id : TaskId}
    (last : v.FailedLast label id) (other : ∀ t, owed? next = some t → t.scope.label ≠ label) :
    after.FailedLast label id := by
  have unique := move.keeps_unique issued distinct
  obtain ⟨event, member, rfl, failed, ⟨t, task, same, labelled⟩, latest⟩ := last
  obtain ⟨u, stays, id, scope, _⟩ := move.task_stays issued.unique task
  refine ⟨event, move.events_grow event member, rfl, failed,
    ⟨u, stays, id.trans same, by rw [scope, labelled]⟩, ?_⟩
  -- An old event is about a task that was there before and had the same scope.
  have old_events : ∀ e ∈ v.events, e.status = .failed → ∀ w ∈ after.tasks, w.id = e.task →
      w.scope.label = label → e.sequence ≤ event.sequence := by
    intro e old failed w task' about labelled'
    obtain ⟨x, known, about_x⟩ := before.known e old
    obtain ⟨y, stays_y, id_y, scope_y, _⟩ := move.task_stays issued.unique known
    obtain rfl := Keyed.eq_of_key unique.tasks task' stays_y (about.trans (id_y.trans about_x).symm)
    exact latest e old failed x known about_x (by rw [← scope_y, labelled'])
  intro e recorded failed w task' about labelled'
  rcases move.new_event with nothing | ⟨new, added, _, x, task_x, about_x, status_x, owes⟩
  · exact old_events e (nothing ▸ recorded) failed w task' about labelled'
  · rw [added] at recorded
    rcases List.mem_append.mp recorded with old | recorded
    · exact old_events e old failed w task' about labelled'
    · obtain rfl := List.mem_singleton.mp recorded
      obtain rfl := Keyed.eq_of_key unique.tasks task' task_x (about.trans about_x.symm)
      exact absurd labelled' (other w (owes (status_x.trans failed)))

theorem owed_move (before : Settled v (s :: rest)) (move : Move v s after next) :
    ∀ t, owed? next = some t → after.FailedLast t.scope.label t.id := by
  intro t owes
  cases move with
  | @report old o now event member _ records =>
    obtain ⟨rfl, failed⟩ := owed?_of_settlement owes
    obtain ⟨sequence, task, status⟩ := records
    have ended : old.ended o now ∈ (v.changing (old.ended o now) event).tasks :=
      View.mem_changing.mpr (.inl ⟨rfl, old, member, (Task.ended_id ..).symm⟩)
    refine ⟨event, List.mem_append_right _ (List.mem_singleton_self _), ?_, ?_,
      ⟨_, ended, rfl, rfl⟩, ?_⟩
    · rw [task, Task.ended_id]
    · rw [status, ← Task.ended_status old o now, failed]
    · intro other recorded _ _ _ _ _
      rw [sequence]
      rcases List.mem_append.mp recorded with earlier | recorded
      · exact Nat.le_of_lt (before.numbered other earlier)
      · obtain rfl := List.mem_singleton.mp recorded
        exact Nat.le_of_eq sequence
  | retryFailedGone => exact before.owed t owes
  | sweep openings | scan openings =>
    rw [owed?_of_openings openings] at owes
    cases owes
  | _ => cases owes

theorem retried_move (before : Settled v (s :: rest)) (move : Move v s after next) :
    ∀ id t, .recordRetryFailure id t ∈ next ++ rest → t.retryOf = some id := by
  intro id t member
  rcases List.mem_append.mp member with member | member
  · cases move with
    | report =>
      rcases Section.mem_settlement member with ⟨_, retried, _, eq⟩ | ⟨_, _, eq⟩ | ⟨_, eq⟩
      · cases eq
        exact retried
      · cases eq
      · cases eq
    | sweep openings | scan openings => cases openings _ member
    | _ => simp at member
  · exact before.retried id t (List.mem_cons_of_mem s member)

theorem restored_move (before : Settled v (s :: rest)) (move : Move v s after next) :
    ∀ r ∈ next ++ rest, ∀ taken, r.held? = some taken → ∀ e ∈ after.standings,
      e.id = taken.previous.id → taken.previous.lastTask = e.lastTask := by
  intro r member taken held e entry same
  rcases List.mem_append.mp member with member | member
  · cases move with
    | claim _ _ previous =>
      obtain rfl := List.mem_singleton.mp member
      cases held
      rcases View.mem_settling.mp entry with ⟨rfl, _⟩ | ⟨_, other⟩
      · exact congrArg Standing.lastTask previous
      · exact absurd (same.trans (congrArg Standing.id previous)) other
    | resubmitRefused =>
      obtain rfl := List.mem_singleton.mp member
      cases held
      exact before.restored _ List.mem_cons_self taken rfl e entry same
    | sweep openings | scan openings =>
      rw [Section.held?_of_opening (openings r member)] at held
      cases held
    | report =>
      rw [Section.held?_of_settlement _ r member] at held
      cases held
    | create | resubmit | attach | attachGone | retryFailedGone =>
      obtain rfl := List.mem_singleton.mp member
      cases held
    | _ => cases member
  · rw [Section.held?_of_opening (before.openings r member)] at held
    cases held

/-- The failure that a section brings has the label of the entry that it updates. -/
theorem label_of_retryFailed {id : EntryId} {failed : Task}
    (coherent : Coherent v (.recordRetryFailure id failed :: rest))
    (before : Settled v (.recordRetryFailure id failed :: rest)) {e : Standing}
    (member : e ∈ v.standings) (same : e.id = id) : failed.scope = e.scope := by
  have task := (coherent.rooted.brings _ List.mem_cons_self failed rfl).1
  have retryOf := before.retried id failed List.mem_cons_self
  exact coherent.linked.scope failed task e member (by rw [retryOf, same])

/-- The last task of an entry is that of the entry in its place before, and the failure that is being
recorded has another label; or it is the task that brings this failure. -/
theorem lastTask_origin (coherent : Coherent v (s :: rest)) (before : Settled v (s :: rest))
    (move : Move v s after next) {e : Standing} (member : e ∈ after.standings)
    (other : ∀ t, owed? next = some t → t.scope.label ≠ e.scope.label) :
    (∃ old ∈ v.standings, old.scope = e.scope ∧ old.lastTask = e.lastTask ∧
      ∀ t, owed? (s :: rest) = some t → t.scope.label ≠ e.scope.label) ∨
      (∃ failed, owed? (s :: rest) = some failed ∧ failed.scope.label = e.scope.label ∧
        failed.id = e.lastTask) := by
  have kept : ∀ {old : Standing}, old ∈ v.standings → old.scope = e.scope →
      old.lastTask = e.lastTask → owed? (s :: rest) = none →
      ∃ old ∈ v.standings, old.scope = e.scope ∧ old.lastTask = e.lastTask ∧
        ∀ t, owed? (s :: rest) = some t → t.scope.label ≠ e.scope.label := by
    intro old member scope last nothing
    exact ⟨old, member, scope, last, by simp [nothing]⟩
  -- An entry under another label than the failure that is recorded.
  have apart : ∀ {failed : Task}, owed? (s :: rest) = some failed → e ∈ v.standings →
      failed.scope.label ≠ e.scope.label →
      ∃ old ∈ v.standings, old.scope = e.scope ∧ old.lastTask = e.lastTask ∧
        ∀ t, owed? (s :: rest) = some t → t.scope.label ≠ e.scope.label := by
    intro failed owes member different
    refine ⟨e, member, rfl, rfl, fun t owes_t => ?_⟩
    rw [owes] at owes_t
    cases owes_t
    exact different
  cases move with
  | claim old | attach old =>
    rcases View.mem_settling.mp member with ⟨rfl, _⟩ | ⟨member, _⟩
    · exact .inl (kept old rfl rfl rfl)
    · exact .inl (kept member rfl rfl rfl)
  | release old same =>
    rcases View.mem_settling.mp member with ⟨rfl, _⟩ | ⟨member, _⟩
    · have scope := coherent.linked.claimed _ List.mem_cons_self _ rfl _ old same.symm
      have last := before.restored _ List.mem_cons_self _ rfl _ old same.symm
      exact .inl (kept old scope.symm last.symm rfl)
    · exact .inl (kept member rfl rfl rfl)
  | @retryFailed old failed oldMember =>
    have scope := label_of_retryFailed coherent before oldMember rfl
    rcases View.mem_settling.mp member with ⟨rfl, _⟩ | ⟨member, different⟩
    · exact .inr ⟨failed, rfl, congrArg Scope.label scope, rfl⟩
    · refine .inl (apart rfl member fun label => ?_)
      have ids : e.id = old.id :=
        coherent.indexed.id_of_label member oldMember (by rw [← label, scope])
      exact different ids
  | retryFailedGone => exact .inl ⟨e, member, rfl, rfl, other⟩
  | @enqueueNew failed id _ fresh =>
    rcases View.mem_opening.mp member with member | rfl
    · refine .inl (apart rfl member fun label => ?_)
      exact fresh _ (coherent.indexed.mem_of_standing member) label.symm
    · exact .inr ⟨failed, rfl, rfl, rfl⟩
  | @enqueueAgain failed old _ oldMember known =>
    obtain ⟨f, f_member, same, label⟩ := (coherent.indexed.mirror _ _).mp known
    obtain rfl := Keyed.eq_of_key coherent.issued.unique.entries f_member oldMember same
    rcases View.mem_settling.mp member with ⟨rfl, _⟩ | ⟨member, different⟩
    · exact .inr ⟨failed, rfl, label.symm, rfl⟩
    · refine .inl (apart rfl member fun same_label => ?_)
      have ids : e.id = f.id :=
        coherent.indexed.id_of_label member oldMember (by rw [← same_label, label])
      exact different ids
  | @enqueueRefused failed lost =>
    have status := (coherent.rooted.brings _ List.mem_cons_self failed rfl).2
    obtain ⟨⟨label, id⟩, known, rfl, absent⟩ := lost status
    obtain ⟨f, f_member, same, _⟩ := (coherent.indexed.mirror _ _).mp known
    exact absurd same (absent f f_member)
  | resolve | remove => exact .inl (kept (View.mem_dropping.mp member).1 rfl rfl rfl)
  | idle opening => exact .inl (kept member rfl rfl (Section.brings?_of_opening opening))
  | _ => exact .inl (kept member rfl rfl rfl)

theorem latest_move (coherent : Coherent v (s :: rest)) (before : Settled v (s :: rest))
    (move : Move v s after next) (distinct : after.Distinct) :
    ∀ e ∈ after.standings, (∀ t, owed? next = some t → t.scope.label ≠ e.scope.label) →
      after.FailedLast e.scope.label e.lastTask := by
  intro e member other
  refine before.failedLast_move coherent.issued move distinct ?_ other
  rcases before.lastTask_origin coherent move member other with
    ⟨old, oldMember, scope, last, apart⟩ | ⟨failed, owes, label, last⟩
  · rw [← scope, ← last]
    exact before.latest old oldMember (by rwa [scope])
  · rw [← label, ← last]
    exact before.owed failed owes

theorem move (coherent : Coherent v (s :: rest)) (before : Settled v (s :: rest))
    (move : Move v s after next) (distinct : after.Distinct) : Settled after (next ++ rest) := by
  have openings : ∀ r ∈ rest, r.isOpening = true := before.openings
  refine ⟨?_, before.numbered_move move, before.known_move coherent.issued.unique move,
    before.retried_move move, before.restored_move move, ?_, ?_⟩
  · cases move with
    | sweep more | scan more =>
      intro r member
      rcases List.mem_append.mp (List.mem_of_mem_tail member) with member | member
      · exact more r member
      · exact openings r member
    | report =>
      simp only [Section.settlement]
      split <;> split <;> first
        | exact openings
        | exact fun r member => openings r (List.mem_of_mem_tail member)
    | create | claim | resubmit | resubmitRefused | attach | attachGone | retryFailedGone =>
      exact openings
    | _ => exact fun r member => openings r (List.mem_of_mem_tail member)
  · rw [owed?_append openings]
    exact before.owed_move move
  · rw [owed?_append openings]
    exact before.latest_move coherent move distinct

/-- Sections that begin calls owe nothing. -/
theorem open_sections (before : Settled v []) (openings : ∀ r ∈ todo, r.isOpening = true) :
    Settled v todo := by
  have nothing := owed?_of_openings openings
  constructor
  · exact fun r member => openings r (List.mem_of_mem_tail member)
  · exact before.numbered
  · exact before.known
  · intro id t member
    cases openings _ member
  · intro r member taken held
    rw [Section.held?_of_opening (openings r member)] at held
    cases held
  · intro t owes
    rw [nothing] at owes
    cases owes
  · exact fun e member _ => before.latest e member (by simp [owed?])

end Settled

theorem Stores.settled_empty (policy : CooldownPolicy) (maxAttempts : Nat) (taskIds : List TaskId)
    (entryIds : List EntryId) : Settled (empty policy maxAttempts taskIds entryIds).view [] := by
  have no_events : (empty policy maxAttempts taskIds entryIds).view.events = [] := rfl
  have no_entries : (empty policy maxAttempts taskIds entryIds).view.standings = [] := rfl
  constructor <;> simp [no_events, no_entries, owed?]

/-- Sections that run to the end settle every failure. -/
theorem Completes.settled {w after : Stores} {todo : List Section} (run : Completes w todo after)
    (coherent : Coherent w.view todo) (before : Settled w.view todo) (distinct : after.Distinct) :
    Settled after.view [] := by
  induction run with
  | done => exact before
  | @step w after s rest x tail ih =>
    have between := tail.distinct_before distinct
    have moves := Section.run_moves coherent.issued.unique s x
    exact ih (coherent.move moves between) (before.move coherent moves between) distinct

end Reindexing
