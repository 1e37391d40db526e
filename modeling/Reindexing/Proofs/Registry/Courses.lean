import Reindexing.Proofs.Registry.Transitions
import Reindexing.Proofs.Task.Records

/-!
# What calls make of tasks

Every task after a call was there before, is new, or has just been started or
ended. `Arises` lists these cases once, so what each of them keeps holds of all
tasks in every run. `Proceeds` is a run of accepted calls with the outcomes that
they recorded; a task that it ended shows one of them.
-/
namespace Reindexing.Registry

variable {r after between : Registry} {tr : Transition} {t : Task}

/-- Where a task after a call comes from. -/
inductive Arises (r : Registry) : Call → Task → Prop where
  | kept {c : Call} {t : Task} : t ∈ r.tasks → Arises r c t
  | created (id : TaskId) (s : Submission) (now : Instant) :
      Arises r (.submit id s now) (newTask id s now)
  | started {t : Task} (trace : Option TraceLink) (now : Instant) : t ∈ r.tasks →
      t.status.isWaiting = true → Arises r (.markRunning t.id trace now) (t.started now)
  | ended {t : Task} (o : Outcome) (note : Option String) (trace : Option TraceLink) (now : Instant) :
      t ∈ r.tasks → t.status = .running → Arises r (.recordOutcome t.id o note trace now) (t.ended o now)

theorem arises_of_answer {c : Call} (success : r.answer c = .ok (after, tr)) (member : t ∈ after.tasks) :
    Arises r c t := by
  -- A task that was put in the place of another one is the only one that was not there before.
  have replaced : ∀ {new : Task} {event : HistoryEvent}, (after, tr) = r.recorded new event →
      t = new ∨ t ∈ r.tasks := by
    intro new event eq
    obtain ⟨rfl, rfl⟩ := Prod.mk.inj eq
    rcases Keyed.mem_replaceBy.mp member with ⟨same, _⟩ | ⟨old, _⟩
    · exact .inl same
    · exact .inr old
  cases c with
  | submit id s now =>
    obtain ⟨_, rfl, rfl⟩ := submit_ok_iff.mp success
    rcases List.mem_append.mp member with old | new
    · exact .kept old
    · rw [List.mem_singleton.mp new]
      exact .created id s now
  | markRunning id trace now =>
    obtain ⟨old, found, waiting, eq⟩ := markRunning_ok success
    obtain ⟨there, rfl⟩ := mem_of_find? found
    rcases replaced eq with rfl | kept
    · exact .started trace now there waiting
    · exact .kept kept
  | recordOutcome id o note trace now =>
    obtain ⟨old, found, running, eq⟩ := recordOutcome_ok success
    obtain ⟨there, rfl⟩ := mem_of_find? found
    rcases replaced eq with rfl | kept
    · exact .ended o note trace now there running
    · exact .kept kept

theorem newTask_wellFormed (id : TaskId) (s : Submission) (now : Instant) :
    (newTask id s now).WellFormed := by
  unfold newTask
  cases s.retryOf with
  | none => constructor <;> simp [Task.create, Task.withNote, Task.withTrace, TaskStatus.isWaiting,
      TaskStatus.isTerminal]
  | some entry => constructor <;> simp [Task.create, Task.withNote, Task.withTrace, Task.asRetryOf,
      TaskStatus.isWaiting, TaskStatus.isTerminal]

/-- Tasks that a call leads to are well-formed if those before are. -/
theorem Arises.wellFormed {c : Call} (arises : Arises r c t) (before : ∀ t ∈ r.tasks, t.WellFormed) :
    t.WellFormed := by
  cases arises with
  | kept member => exact before t member
  | created id s now => exact newTask_wellFormed id s now
  | started trace now member waiting => exact (before _ member).start waiting now
  | ended o note trace now member running => exact (before _ member).finish running o now

theorem Leads.wellFormed {start : Registry} (later : Leads start r) (first : ∀ t ∈ start.tasks, t.WellFormed) :
    ∀ t ∈ r.tasks, t.WellFormed := by
  induction later with
  | refl => exact first
  | @call r c _ _ ih =>
    intro t member
    cases result : r.answer c with
    | error refusal =>
      simp only [perform, result] at member
      exact ih t member
    | ok value =>
      obtain ⟨after, tr⟩ := value
      simp only [perform, result] at member
      exact (arises_of_answer result member).wellFormed ih

theorem Reachable.wellFormed (h : r.Reachable) : ∀ t ∈ r.tasks, t.WellFormed :=
  Leads.wellFormed h (List.forall_mem_nil _)

/-! ### Runs of accepted calls -/

/-- The reading of the clock that a call brings. -/
def Call.time : Call → Instant
  | .submit _ _ now | .markRunning _ _ now | .recordOutcome _ _ _ _ now => now

/-- The outcome that a call records. -/
def Call.told : Call → List (TaskId × Outcome)
  | .submit .. | .markRunning .. => []
  | .recordOutcome id o .. => [(id, o)]

/-- Accepted calls one after the other, each at a time of the clock, with the outcomes they record. -/
inductive Proceeds (clock : Instant → Prop) : Registry → List (TaskId × Outcome) → Registry → Prop where
  | refl (r : Registry) : Proceeds clock r [] r
  | call {r after : Registry} {tr : Transition} (c : Call) : clock c.time → r.answer c = .ok (after, tr) →
      Proceeds clock r c.told after
  | trans {r between after : Registry} {first second : List (TaskId × Outcome)} :
      Proceeds clock r first between → Proceeds clock between second after →
      Proceeds clock r (first ++ second) after

variable {clock : Instant → Prop} {told : List (TaskId × Outcome)}

theorem Proceeds.mono {other : Instant → Prop} (run : Proceeds clock r told after)
    (weaker : ∀ t, clock t → other t) : Proceeds other r told after := by
  induction run with
  | refl r => exact .refl r
  | call c reading success => exact .call c (weaker _ reading) success
  | trans _ _ ih_first ih_second => exact ih_first.trans ih_second

theorem Proceeds.wellFormed (run : Proceeds clock r told after) (before : ∀ t ∈ r.tasks, t.WellFormed) :
    ∀ t ∈ after.tasks, t.WellFormed := by
  induction run with
  | refl => exact before
  | call c _ success => exact fun t member => (arises_of_answer success member).wellFormed before
  | trans _ _ ih_first ih_second => exact ih_second (ih_first before)

/-- A finished task was finished before, or shows an outcome that was recorded for it. -/
theorem Proceeds.shows_told (run : Proceeds clock r told after) (before : ∀ t ∈ r.tasks, t.WellFormed)
    (member : t ∈ after.tasks) (terminal : t.status.isTerminal = true) :
    t ∈ r.tasks ∨ ∃ o, (t.id, o) ∈ told ∧ t.Shows o := by
  induction run with
  | refl => exact .inl member
  | call c _ success =>
    cases arises_of_answer success member with
    | kept old => exact .inl old
    | created id s now =>
      rw [TaskStatus.not_terminal_of_waiting (newTask_waiting id s now)] at terminal
      cases terminal
    | started trace now old waiting => cases terminal
    | @ended old o note trace now there running =>
      rw [Task.ended_id]
      exact .inr ⟨o, List.mem_singleton_self _, (before old there).shows_ended running o now⟩
  | trans first _ ih_first ih_second =>
    rcases ih_second (first.wellFormed before) member with between | ⟨o, recorded, shows_⟩
    · rcases ih_first before between with old | ⟨o, recorded, shows_⟩
      · exact .inl old
      · exact .inr ⟨o, List.mem_append_left _ recorded, shows_⟩
    · exact .inr ⟨o, List.mem_append_right _ recorded, shows_⟩

end Reindexing.Registry
