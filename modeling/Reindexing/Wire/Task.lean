import Reindexing.History
import Reindexing.Wire.Basic

/-!
# Wire forms of tasks

Trace links, evidence, outcomes, tasks and history events. Options without a
value are left out. Evidence also shows the total of its counts, which is not
read back.
-/
namespace Reindexing.Wire

open Json

def traceLink : Codec TraceLink :=
  .ofLayout
    (.field (.required "trace_id" text) <|
      .field (.optional "span_id" text) <|
      .field (.optional "trace_url" text) .done)
    (fun l => (l.traceId, l.spanId, l.url, ()))
    (fun (traceId, spanId, url, ()) => ⟨traceId, spanId, url⟩)

def sample : Codec Sample :=
  .ofLayout
    (.field (.optional "urn_id" text) <|
      .field (.optional "chunk_id" text) <|
      .field (.required "diff_type" changeKind) <|
      .field (.required "source" text) <|
      .field (.optional "section" text) <|
      .field (.optional "quote" text) <|
      .field (.optional "updated_at" instant) .done)
    (fun s => (s.urn, s.chunk, s.kind, s.source, s.heading, s.quote, s.updatedAt, ()))
    (fun (urn, chunk, kind, source, heading, quote, updatedAt, ()) =>
      { urn, chunk, kind, source, heading, quote, updatedAt })

/-- Evidence without the total of its counts. -/
def storedEvidence : Codec Evidence :=
  .ofLayout
    (.field (.required "created" word) <|
      .field (.required "updated" word) <|
      .field (.required "removed" word) <|
      .field (.withDefault "samples" (list sample) []) .done)
    (fun e => (e.created.toNat, e.updated.toNat, e.removed.toNat, e.samples, ()))
    (fun (created, updated, removed, samples, ()) => ⟨.ofNat created, .ofNat updated, .ofNat removed, samples⟩)

def evidenceToJson (e : Evidence) : Json :=
  .record [("created", .nat e.created.toNat), ("updated", .nat e.updated.toNat), ("removed", .nat e.removed.toNat),
    ("total_changes", .nat e.totalChanges.toNat), ("samples", (list sample).write e.samples)]

def evidence : Codec Evidence := ⟨evidenceToJson, storedEvidence.read⟩

def evidenceOutcome (make : Evidence → Outcome) : Decoder Outcome :=
  (Codec.ofLayout (.field (.required "evidence" evidence) .done)
    (fun (_ : Outcome) => (Evidence.none, ())) (fun (e, ()) => make e)).read

def failureLayout : Layout (String × Option String × Unit) (Option String × Option (Option String) × Unit) :=
  .field (.required "error_code" text) (.field (.optional "message" text) .done)

def failureOutcome : Decoder Outcome := fun origin d =>
  (failureLayout.read origin d).map fun (code, message, ()) => .failure code message

def outcomeToJson : Outcome → Json
  | .success e => .record [("outcome", .text "success"), ("evidence", evidence.write e)]
  | .partly e => .record [("outcome", .text "partial"), ("evidence", evidence.write e)]
  | .failure code message =>
    .record (("outcome", .text "failure") :: failureLayout.write (code, message, ()))

def outcome : Codec Outcome :=
  ⟨outcomeToJson, readTagged "outcome"
    [("success", evidenceOutcome .success), ("partial", evidenceOutcome .partly), ("failure", failureOutcome)]⟩

def task : Codec Task :=
  .ofLayout
    (.field (.required "task_id" taskId) <|
      .field (.required "scope" scope) <|
      .field (.required "actor" text) <|
      .field (.optional "note" text) <|
      .field (.required "status" taskStatus) <|
      .field (.required "created_at" instant) <|
      .field (.optional "started_at" instant) <|
      .field (.optional "finished_at" instant) <|
      .field (.optional "duration_ms" integer) <|
      .field (.optional "trace" traceLink) <|
      .field (.optional "evidence_diff" evidence) <|
      .field (.optional "error_code" text) <|
      .field (.optional "error_message" text) <|
      .field (.optional "retry_of" entryId) .done)
    (fun t => (t.id, t.scope, t.actor, t.note, t.status, t.createdAt, t.startedAt, t.finishedAt,
      t.durationMillis, t.trace, t.evidence, t.errorCode, t.errorMessage, t.retryOf, ()))
    (fun (id, scope, actor, note, status, createdAt, startedAt, finishedAt, durationMillis, trace,
        evidence, errorCode, errorMessage, retryOf, ()) =>
      { id, scope, actor, note, status, createdAt, startedAt, finishedAt, durationMillis, trace,
        evidence, errorCode, errorMessage, retryOf })

def eventLayout : Layout
    (Nat × TaskId × TaskStatus × Instant × Option String × Option TraceLink × Unit)
    (Option Nat × Option TaskId × Option TaskStatus × Option Instant × Option (Option String) ×
      Option (Option TraceLink) × Unit) :=
  .field (.required "sequence" word) <|
    .field (.required "task_id" taskId) <|
    .field (.required "status" taskStatus) <|
    .field (.required "timestamp" instant) <|
    .field (.optional "note" text) <|
    .field (.optional "trace" traceLink) .done

def event : Codec HistoryEvent :=
  .ofLayout eventLayout
    (fun e => (e.sequence, e.task, e.status, e.timestamp, e.note, e.trace, ()))
    (fun (sequence, task, status, timestamp, note, trace, ()) =>
      { sequence, task, status, timestamp, note, trace })

def taskHistoryToJson (h : TaskHistory) : Json :=
  .record [("task", task.write h.task), ("latest", event.write h.latest), ("events", (list event).write h.events)]

end Reindexing.Wire
