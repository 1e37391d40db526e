import Reindexing.Api.Endpoint
import Reindexing.Cli.Answer
import Reindexing.Proofs.Json.Lookup
import Reindexing.Proofs.Wire.Basic

/-!
# What a client makes of the server's data

Client and server declare their record types apart. Here is, for every type of the
client, the value that it should have for a value of the server, and that the text
of the server conveys it: identifiers, states by their names, counts, times, and the
parts that may be missing. The client asks less of the numbers and times than the
server, so a value needs only to be as small as its fields allow.
-/
namespace Reindexing

/-- The numbers that a client reads of a task have their sizes. -/
structure Task.IsSized (t : Task) : Prop where
  durationMillis : ∀ d, t.durationMillis = some d → Word.isInt64 d = true

structure TaskHistory.IsSized (h : TaskHistory) : Prop where
  task : h.task.IsSized
  latest : h.latest.sequence ≤ Word.max64
  events : ∀ e ∈ h.events, e.sequence ≤ Word.max64

/-- The numbers that a client reads of an entry have their sizes, and its cooldown can be written. -/
structure QueueEntry.IsSized (e : QueueEntry) : Prop where
  attempts : e.attempts ≤ Word.max32
  maxAttempts : e.maxAttempts ≤ Word.max32
  cooldownUntil : ∀ t, e.cooldownUntil = some t → t.Expressible

namespace Cli

open Json

variable {origin : Origin} {depth : Nat}

/-! ### Scopes -/

theorem normal_scope (s : Scope) : (Wire.scopeToJson s).normal = Wire.scopeToJson s := by
  cases s with
  | all => rfl
  | sources keys =>
    have texts : normalList (keys.map .text) = keys.map .text := by
      induction keys with
      | nil => rfl
      | cons key rest ih => exact congrArg (Json.text key :: ·) ih
    exact congrArg Json.list texts

/-- The client labels the wire form of a scope as the server labels the scope. -/
theorem scopeLabel_scope (s : Scope) : scopeLabel (Wire.scopeToJson s) = s.label := by
  cases s with
  | all => rfl
  | sources keys =>
    have texts : (keys.map Json.text).filterMap Json.text? = keys := by
      induction keys with
      | nil => rfl
      | cons key rest ih => exact congrArg (key :: ·) ih
    exact congrArg (Text.join ",") texts

theorem legibleWithin_scope (s : Scope) : (Wire.scopeToJson s).LegibleWithin 1 := by
  cases s with
  | all => exact legibleWithin_text _
  | sources keys =>
    refine legibleWithin_list fun j member => ?_
    obtain ⟨key, _, rfl⟩ := List.mem_map.mp member
    exact legibleWithin_text key

theorem scope_reads (s : Scope) (admits : origin.Admits 1) :
    anything.read origin (Document.ofJson (Wire.scope.write s)) = .ok (Wire.scopeToJson s) := by
  have value := anything_reads (admits.mono (legibleWithin_scope s).2)
  rw [normal_scope] at value
  exact value

/-! ### Identifiers and trace links -/

theorem uuid_reads (origin : Origin) (u : Uuid) : uuid.read origin (Document.ofJson (.text u.toText)) = .ok u := by
  simp only [uuid, Wire.viaText, Decode.refine, Document.ofJson, Document.asText, bind, Except.bind,
    Uuid.ofText?_toText]

def TraceAnswer.of (l : TraceLink) : TraceAnswer := ⟨l.traceId, l.url⟩

theorem optionalText_writes (name : String) (s : Option String) :
    (Field.optional name Wire.text).Writes (LegibleWithin depth) s :=
  Field.optional_writes name fun _ _ => legibleWithin_text _

theorem nullableText_takes (name : String) (s : Option String) :
    (Field.nullable name Wire.text).Takes origin (s.map Wire.text.write) s := by
  cases s <;> rfl

theorem traceLink_conveys (l : TraceLink) :
    (Wire.traceLink.write l).Conveys 1 traceAnswer.read (TraceAnswer.of l) where
  legible := by
    apply legibleWithin_record
    apply Layout.forall_mem_write
    exact ⟨Field.required_writes _ (legibleWithin_text _), optionalText_writes _ _, optionalText_writes _ _, trivial⟩
  filled := nofun
  reads origin admits := by
    obtain ⟨inner, enters, allows⟩ := admits.inside
    apply Codec.ofLayout_takes (a := (l.traceId, l.url, ()))
    · exact Layout.field?_write _ (by decide) _
    · exact Layout.unique_write _ (by decide) _
    · decide
    · exact enters
    · exact ⟨rfl, nullableText_takes _ _, trivial⟩
    · rfl

/-! ### Submitted tasks -/

def SubmitAnswer.of (t : Task) : SubmitAnswer where
  taskId := t.id.uuid
  status := t.status.name
  scope := Wire.scopeToJson t.scope
  trace := t.trace.map TraceAnswer.of

/-- The fields that the server shows of a submitted task. -/
def submittedLayout : Layout (TaskId × TaskStatus × Scope × Option TraceLink × Unit)
    (Option TaskId × Option TaskStatus × Option Scope × Option (Option TraceLink) × Unit) :=
  .field (.required "task_id" Wire.taskId) <|
    .field (.required "status" Wire.taskStatus) <|
    .field (.required "scope" Wire.scope) <|
    .field (.optional "trace" Wire.traceLink) .done

theorem submittedJson_eq (t : Task) :
    Api.submittedJson t = .record (submittedLayout.write (t.id, t.status, t.scope, t.trace, ())) := by
  unfold Api.submittedJson
  generalize t.trace = trace
  cases trace <;> rfl

theorem submitted_conveys (t : Task) :
    (Api.submittedJson t).Conveys 2 submitAnswer.read (SubmitAnswer.of t) := by
  rw [submittedJson_eq]
  constructor
  · apply legibleWithin_record
    apply Layout.forall_mem_write
    exact ⟨Field.required_writes _ (legibleWithin_text _), Field.required_writes _ (legibleWithin_text _),
      Field.required_writes _ (legibleWithin_scope _),
      Field.optional_writes _ fun l _ => (traceLink_conveys l).legible, trivial⟩
  · exact nofun
  · intro origin admits
    obtain ⟨inner, enters, allows⟩ := admits.inside
    apply Codec.ofLayout_takes (a := (t.id.uuid, t.status.name, Wire.scopeToJson t.scope,
      t.trace.map TraceAnswer.of, ()))
    · exact Layout.field?_write _ (by decide) _
    · exact Layout.unique_write _ (by decide) _
    · decide
    · exact enters
    · refine ⟨uuid_reads inner _, rfl, scope_reads _ allows, ?_, trivial⟩
      exact Field.nullable_takes _ fun l _ => ⟨nofun, (traceLink_conveys l).reads inner allows⟩
    · rfl

/-! ### Tasks -/

def TaskAnswer.of (t : Task) : TaskAnswer where
  taskId := t.id.uuid
  scope := Wire.scopeToJson t.scope
  actor := t.actor
  status := t.status.name
  createdAt := t.createdAt.toText
  durationMillis := t.durationMillis
  errorCode := t.errorCode
  errorMessage := t.errorMessage
  evidence := t.evidence.map fun e => (Wire.evidence.write e).normal
  trace := t.trace.map TraceAnswer.of
  retryOf := t.retryOf.map EntryId.uuid

theorem legibleWithin_evidence (e : Evidence) : (Wire.evidence.write e).LegibleWithin 3 := by
  apply legibleWithin_record
  simp only [List.forall_mem_cons]
  have word (w : UInt64) : LegibleWithin 2 (.nat w.toNat) := legibleWithin_nat (Word.toNat_le_max64 w)
  refine ⟨word e.created, word e.updated, word e.removed, word e.totalChanges, ?_, nofun⟩
  refine legibleWithin_list fun j member => ?_
  obtain ⟨s, _, rfl⟩ := List.mem_map.mp member
  apply legibleWithin_record
  apply Layout.forall_mem_write
  exact ⟨optionalText_writes _ _, optionalText_writes _ _, Field.required_writes _ (legibleWithin_text _),
    Field.required_writes _ (legibleWithin_text _), optionalText_writes _ _, optionalText_writes _ _,
    Field.optional_writes _ fun _ _ => legibleWithin_text _, trivial⟩

theorem task_conveys {t : Task} (sized : t.IsSized) :
    (Wire.task.write t).Conveys 4 taskAnswer.read (TaskAnswer.of t) where
  legible := by
    apply legibleWithin_record
    apply Layout.forall_mem_write
    refine ⟨?_, ?_, ?_, ?_, ?_, ?_, ?_, ?_, ?_, ?_, ?_, ?_, ?_, ?_, trivial⟩
    · exact Field.required_writes _ (legibleWithin_text _)
    · exact Field.required_writes _ ((legibleWithin_scope _).mono (by decide))
    · exact Field.required_writes _ (legibleWithin_text _)
    · exact optionalText_writes _ _
    · exact Field.required_writes _ (legibleWithin_text _)
    · exact Field.required_writes _ (legibleWithin_text _)
    · exact Field.optional_writes _ fun _ _ => legibleWithin_text _
    · exact Field.optional_writes _ fun _ _ => legibleWithin_text _
    · exact Field.optional_writes _ fun d found => legibleWithin_int64 (sized.durationMillis d found)
    · exact Field.optional_writes _ fun l _ => (traceLink_conveys l).legible.mono (by decide)
    · exact Field.optional_writes _ fun e _ => legibleWithin_evidence e
    · exact optionalText_writes _ _
    · exact optionalText_writes _ _
    · exact Field.optional_writes _ fun _ _ => legibleWithin_text _
  filled := nofun
  reads origin admits := by
    obtain ⟨inner, enters, allows⟩ := admits.inside
    apply Codec.ofLayout_takes (a := (t.id.uuid, Wire.scopeToJson t.scope, t.actor, t.status.name, t.createdAt.toText,
      t.durationMillis.map id, t.errorCode, t.errorMessage, t.evidence.map fun e => (Wire.evidence.write e).normal,
      t.trace.map TraceAnswer.of, t.retryOf.map EntryId.uuid, ()))
    · exact Layout.field?_write _ (by decide) _
    · exact Layout.unique_write _ (by decide) _
    · decide
    · exact enters
    · refine ⟨uuid_reads inner _, scope_reads _ (allows.mono (by decide)), rfl, rfl, rfl, ?_, nullableText_takes _ _,
        nullableText_takes _ _, ?_, ?_, ?_, trivial⟩
      · exact Field.nullable_takes _ fun d found => ⟨nofun, if_pos (sized.durationMillis d found)⟩
      · exact Field.nullable_takes _ fun e _ =>
          ⟨nofun, anything_reads (allows.mono (legibleWithin_evidence e).2)⟩
      · exact Field.nullable_takes _ fun l _ => ⟨nofun, (traceLink_conveys l).reads inner (allows.mono (by decide))⟩
      · exact Field.nullable_takes _ fun id _ => ⟨nofun, uuid_reads inner _⟩
    · simp [TaskAnswer.of]

/-! ### Histories -/

def EventAnswer.of (e : HistoryEvent) : EventAnswer :=
  ⟨e.sequence, e.status.name, e.timestamp.toText, e.note⟩

theorem event_conveys {e : HistoryEvent} (sized : e.sequence ≤ Word.max64) :
    (Wire.event.write e).Conveys 2 eventAnswer.read (EventAnswer.of e) where
  legible := by
    apply legibleWithin_record
    apply Layout.forall_mem_write
    exact ⟨Field.required_writes _ (legibleWithin_nat sized), Field.required_writes _ (legibleWithin_text _),
      Field.required_writes _ (legibleWithin_text _), Field.required_writes _ (legibleWithin_text _),
      optionalText_writes _ _, Field.optional_writes _ fun l _ => (traceLink_conveys l).legible, trivial⟩
  filled := nofun
  reads origin admits := by
    obtain ⟨inner, enters, allows⟩ := admits.inside
    apply Codec.ofLayout_takes (a := (e.sequence, e.status.name, e.timestamp.toText, e.note, ()))
    · exact Layout.field?_write _ (by decide) _
    · exact Layout.unique_write _ (by decide) _
    · decide
    · exact enters
    · exact ⟨if_pos sized, rfl, rfl, nullableText_takes _ _, trivial⟩
    · rfl

def HistoryAnswer.of (h : TaskHistory) : HistoryAnswer :=
  ⟨TaskAnswer.of h.task, EventAnswer.of h.latest, h.events.map EventAnswer.of⟩

theorem history_conveys {h : TaskHistory} (sized : h.IsSized) :
    (Wire.taskHistoryToJson h).Conveys 5 historyAnswer.read (HistoryAnswer.of h) := by
  have task := task_conveys sized.task
  have latest := (event_conveys sized.latest).mono (show 2 ≤ 4 by decide)
  have events := (conveys_list fun e member => event_conveys (sized.events e member)).mono (show 3 ≤ 4 by decide)
  constructor
  · apply legibleWithin_record
    simp only [List.forall_mem_cons]
    exact ⟨task.legible, latest.legible, events.legible, nofun⟩
  · exact nofun
  · intro origin admits
    obtain ⟨inner, enters, allows⟩ := admits.inside
    apply Codec.ofLayout_takes (a := (TaskAnswer.of h.task, EventAnswer.of h.latest, h.events.map EventAnswer.of, ()))
    · exact fun _ => rfl
    · exact (by decide : ["task", "latest", "events"].Nodup)
    · decide
    · exact enters
    · exact ⟨task.reads inner allows, latest.reads inner allows, events.reads inner allows, trivial⟩
    · rfl

/-! ### Entries -/

def EntryAnswer.of (v : EntryView) : EntryAnswer where
  entryId := v.entry.id.uuid
  originalTask := v.entry.originalTask.uuid
  currentTask := v.entry.currentTask.map TaskId.uuid
  scope := Wire.scopeToJson v.entry.scope
  status := v.entry.status.name
  attempts := v.entry.attempts
  maxAttempts := v.entry.maxAttempts
  mode := v.entry.mode.name
  cooldownUntil := v.entry.cooldownUntil
  lastError := v.entry.lastError
  note := v.entry.note
  state := v.state.name
  isEligible := v.eligible
  attemptsRemaining := v.attemptsRemaining

/-- A view is one record of what its entry and the derived fields are written as. -/
theorem view_write_eq {α σ : Type} {layout : Layout α σ} {toPairs : QueueEntry → α} {ofPairs : α → QueueEntry}
    (form : Wire.entry = Codec.ofLayout layout toPairs ofPairs) (v : EntryView) :
    Wire.view.write v = .record (layout.write (toPairs v.entry) ++
      Wire.derivedLayout.write (v.state, v.eligible, v.attemptsRemaining, ())) := by
  have written : Wire.entry.write v.entry = .record (layout.write (toPairs v.entry)) := by
    rw [form]
    rfl
  change Wire.viewToJson v = _
  simp only [Wire.viewToJson, written]

theorem view_conveys {e : QueueEntry} (sized : e.IsSized) (now : Instant) :
    (Wire.view.write (e.view now)).Conveys 2 entryAnswer.read (EntryAnswer.of (e.view now)) := by
  have remaining (n : Nat) (found : e.attemptsRemaining = some n) : n ≤ Word.max32 := by
    unfold QueueEntry.attemptsRemaining at found
    split at found
    · rw [← Option.some.inj found]
      exact Nat.le_trans (Nat.sub_le _ _) sized.maxAttempts
    · cases found
  have count {n : Nat} (small : n ≤ Word.max32) : n ≤ Word.max64 := Nat.le_trans small (by decide)
  rw [view_write_eq rfl]
  constructor
  · apply legibleWithin_record
    rw [List.forall_mem_append]
    constructor
    · apply Layout.forall_mem_write
      exact ⟨Field.required_writes _ (legibleWithin_text _), Field.required_writes _ (legibleWithin_text _),
        Field.optional_writes _ fun _ _ => legibleWithin_text _, Field.required_writes _ (legibleWithin_text _),
        Field.required_writes _ (legibleWithin_scope _), Field.required_writes _ (legibleWithin_text _),
        Field.required_writes _ (legibleWithin_nat (count sized.attempts)),
        Field.required_writes _ (legibleWithin_nat (count sized.maxAttempts)),
        Field.required_writes _ (legibleWithin_text _), Field.optional_writes _ fun _ _ => legibleWithin_text _,
        Field.optional_writes _ fun _ _ => legibleWithin_text _, optionalText_writes _ _, optionalText_writes _ _,
        Field.required_writes _ (legibleWithin_text _), Field.optional_writes _ fun _ _ => legibleWithin_text _,
        trivial⟩
    · apply Layout.forall_mem_write
      exact ⟨Field.required_writes _ (legibleWithin_text _), Field.required_writes _ (legibleWithin_bool _),
        Field.optional_writes _ fun n found => legibleWithin_nat (count (remaining n found)), trivial⟩
  · exact nofun
  · intro origin admits
    obtain ⟨inner, enters, allows⟩ := admits.inside
    apply Codec.ofLayout_takes (a := (e.id.uuid, e.originalTask.uuid, e.currentTask.map TaskId.uuid,
      Wire.scopeToJson e.scope, e.status.name, e.attempts, e.maxAttempts, e.mode.name, e.cooldownUntil.map id,
      e.lastError, e.note, (e.retryState now).name, e.isEligible now, e.attemptsRemaining.map id, ()))
    · exact Layout.field?_write_append _ _ (by decide) (by decide) (by decide) _ _
    · exact Layout.unique_write_append _ _ (by decide) (by decide) (by decide) _ _
    · decide
    · exact enters
    · refine ⟨uuid_reads inner _, uuid_reads inner _, ?_, scope_reads _ allows, rfl, if_pos sized.attempts,
        if_pos sized.maxAttempts, rfl, ?_, nullableText_takes _ _, nullableText_takes _ _, rfl, rfl, ?_, trivial⟩
      · exact Field.nullable_takes _ fun id _ => ⟨nofun, uuid_reads inner _⟩
      · refine Field.nullable_takes _ fun t found => ⟨nofun, ?_⟩
        exact (Wire.instant_returns (sized.cooldownUntil t found)).reads inner (allows.mono (Nat.zero_le 1))
      · exact Field.nullable_takes _ fun n found => ⟨nofun, if_pos (remaining n found)⟩
    · simp [EntryAnswer.of, QueueEntry.view]

end Cli
end Reindexing
