import Reindexing.Proofs.Task.Transitions
import Reindexing.Proofs.Time.Instants

/-!
# Records of tasks

Creation, start and end of a task each set some of its fields. `WellFormed` says
of every field when it is set, in terms of the status alone, and how start, end
and duration belong together; `Shows` says that a task has what an outcome
brought. A task that was not finished has neither evidence nor error, so what is
there after the end comes from the outcome that ended it.
-/
namespace Reindexing

namespace Outcome

def evidence? : Outcome → Option Evidence
  | .success evidence | .partly evidence => some evidence
  | .failure .. => none

def errorCode? : Outcome → Option String
  | .success _ | .partly _ => none
  | .failure errorCode _ => some errorCode

def errorMessage? : Outcome → Option String
  | .success _ | .partly _ => none
  | .failure _ message => message

@[simp] theorem status_track (cap : Nat) (o : Outcome) : (o.track cap).status = o.status := by
  cases o <;> rfl

theorem evidence?_track (cap : Nat) (o : Outcome) :
    (o.track cap).evidence? = o.evidence?.map (Evidence.track cap) := by
  cases o <;> rfl

theorem errorCode?_track (cap : Nat) (o : Outcome) : (o.track cap).errorCode? = o.errorCode? := by
  cases o <;> rfl

theorem errorMessage?_track (cap : Nat) (o : Outcome) :
    (o.track cap).errorMessage? = o.errorMessage? := by
  cases o <;> rfl

end Outcome

/-- What is kept of evidence: all counts, and the first samples in their order. -/
theorem Evidence.track_eq (cap : Nat) (e : Evidence) :
    e.track cap = ⟨e.created, e.updated, e.removed, e.samples.take (min e.samples.length cap)⟩ := by
  rw [Nat.min_comm, ← List.take_eq_take_min]
  rfl

namespace Task

variable {t : Task} {o : Outcome} {now : Instant}

/-- Which fields of a task are set, and how its times belong together. -/
structure WellFormed (t : Task) : Prop where
  started : t.startedAt.isSome = !t.status.isWaiting
  finished : t.finishedAt.isSome = t.status.isTerminal
  timed : t.durationMillis.isSome = t.status.isTerminal
  span : ∀ s f, t.startedAt = some s → t.finishedAt = some f →
    s ≤ f ∧ t.durationMillis = some (Instant.wholeMillis (f - s))
  evidence : t.evidence.isSome = true ↔ t.status = .completed ∨ t.status = .partly
  errorCode : t.errorCode.isSome = true ↔ t.status = .failed
  errorMessage : t.errorMessage.isSome = true → t.status = .failed

/-- The task has what an outcome brought, and nothing else. -/
structure Shows (t : Task) (o : Outcome) : Prop where
  status : t.status = o.status
  evidence : t.evidence = o.evidence?
  errorCode : t.errorCode = o.errorCode?
  errorMessage : t.errorMessage = o.errorMessage?

/-- A task that is not finished has no evidence and no error. -/
theorem WellFormed.blank (h : t.WellFormed) (active : t.status.isTerminal = false) :
    t.evidence = none ∧ t.errorCode = none ∧ t.errorMessage = none := by
  have open_ : ∀ s : TaskStatus, s.isTerminal = true → t.status ≠ s := by
    rintro s terminal rfl
    rw [active] at terminal
    cases terminal
  refine ⟨?_, ?_, ?_⟩
  · rw [← Option.not_isSome_iff_eq_none, h.evidence]
    rintro (completed | partly)
    · exact open_ .completed rfl completed
    · exact open_ .partly rfl partly
  · rw [← Option.not_isSome_iff_eq_none, h.errorCode]
    exact open_ .failed rfl
  · rw [← Option.not_isSome_iff_eq_none]
    exact fun message => open_ .failed rfl (h.errorMessage message)

theorem WellFormed.start (h : t.WellFormed) (waiting : t.status.isWaiting = true) (now : Instant) :
    (t.started now).WellFormed := by
  have active := TaskStatus.not_terminal_of_waiting waiting
  obtain ⟨evidence, errorCode, errorMessage⟩ := h.blank active
  have unfinished := h.finished.trans active
  exact {
    started := rfl
    finished := unfinished
    timed := h.timed.trans active
    span := by
      intro s f _ found
      have finished : t.finishedAt = some f := found
      rw [finished] at unfinished
      cases unfinished
    evidence := by
      have kept : (t.started now).evidence = none := evidence
      simp [kept]
    errorCode := by
      have kept : (t.started now).errorCode = none := errorCode
      simp [kept]
    errorMessage := by
      have kept : (t.started now).errorMessage = none := errorMessage
      simp [kept] }

/-- The end of a running task shows its outcome. -/
theorem WellFormed.shows_ended (h : t.WellFormed) (running : t.status = .running) (o : Outcome)
    (now : Instant) : (t.ended o now).Shows o := by
  obtain ⟨evidence, errorCode, errorMessage⟩ := h.blank (running ▸ rfl)
  cases o with
  | success e => exact ⟨rfl, rfl, errorCode, errorMessage⟩
  | partly e => exact ⟨rfl, rfl, errorCode, errorMessage⟩
  | failure code message => exact ⟨rfl, evidence, rfl, rfl⟩

@[simp] theorem ended_startedAt (t : Task) (o : Outcome) (now : Instant) :
    (t.ended o now).startedAt = t.startedAt := by cases o <;> rfl

@[simp] theorem ended_createdAt (t : Task) (o : Outcome) (now : Instant) :
    (t.ended o now).createdAt = t.createdAt := by cases o <;> rfl

@[simp] theorem ended_durationMillis (t : Task) (o : Outcome) (now : Instant) :
    (t.ended o now).durationMillis =
      some (Instant.wholeMillis (t.endTime now - t.startedAt.getD now)) := by cases o <;> rfl

theorem endTime_of_started {s : Instant} (started : t.startedAt = some s) (now : Instant) :
    t.endTime now = max now s := by
  rw [endTime, started, Option.getD_some]

theorem WellFormed.finish (h : t.WellFormed) (running : t.status = .running) (o : Outcome)
    (now : Instant) : (t.ended o now).WellFormed := by
  have shows_ := h.shows_ended running o now
  have set : t.startedAt.isSome = true := by
    rw [h.started, running]
    rfl
  exact {
    started := by
      rw [ended_startedAt, ended_status, o.status_not_waiting, set]
      rfl
    finished := by
      rw [ended_finishedAt, ended_status, o.status_terminal]
      rfl
    timed := by
      rw [ended_durationMillis, ended_status, o.status_terminal]
      rfl
    span := by
      intro s f started finished
      rw [ended_startedAt] at started
      rw [ended_finishedAt, endTime_of_started started] at finished
      obtain rfl := Option.some.inj finished
      rw [ended_durationMillis, endTime_of_started started, started, Option.getD_some]
      exact ⟨Instant.le_max_right now s, rfl⟩
    evidence := by
      rw [shows_.evidence, shows_.status]
      cases o <;> simp [Outcome.evidence?, Outcome.status]
    errorCode := by
      rw [shows_.errorCode, shows_.status]
      cases o <;> simp [Outcome.errorCode?, Outcome.status]
    errorMessage := by
      rw [shows_.errorMessage, shows_.status]
      cases o <;> simp [Outcome.errorMessage?, Outcome.status] }

/-- What a task keeps of an outcome whose samples were cut off. -/
theorem Shows.of_track {cap : Nat} (h : t.Shows (o.track cap)) :
    t.status = o.status ∧
      t.evidence = o.evidence?.map (fun e =>
        ⟨e.created, e.updated, e.removed, e.samples.take (min e.samples.length cap)⟩) ∧
      t.errorCode = o.errorCode? ∧ t.errorMessage = o.errorMessage? := by
  refine ⟨h.status.trans (o.status_track cap), ?_, h.errorCode.trans (o.errorCode?_track cap),
    h.errorMessage.trans (o.errorMessage?_track cap)⟩
  rw [h.evidence, o.evidence?_track]
  cases o.evidence? with
  | none => rfl
  | some e => exact congrArg some (e.track_eq cap)

end Task

end Reindexing
