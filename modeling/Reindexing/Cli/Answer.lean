import Reindexing.Wire.Basic
import Reindexing.Word

/-!
# Answers of a server

What an operator reads in the answers of a server. Identifiers, counts and times
must be well-formed; states and codes are kept as the texts they are, so that a
server may have new ones. Values that are written out again have `null` where
there is nothing.
-/
namespace Reindexing.Cli

open Json

def uuid : Codec Uuid := Wire.viaText Uuid.toText Uuid.ofText?

def anything : Codec Json := ⟨id, Decode.anything⟩

structure TraceAnswer where
  traceId : String
  url : Option String
  deriving DecidableEq, Repr

def traceAnswer : Codec TraceAnswer :=
  .ofLayout
    (.field (.required "trace_id" Wire.text) <|
      .field (.nullable "trace_url" Wire.text) .done)
    (fun t => (t.traceId, t.url, ()))
    (fun (traceId, url, ()) => ⟨traceId, url⟩)

/-- The answer to a submission. -/
structure SubmitAnswer where
  taskId : Uuid
  status : String
  scope : Json
  trace : Option TraceAnswer
  deriving DecidableEq, Repr

def submitAnswer : Codec SubmitAnswer :=
  .ofLayout
    (.field (.required "task_id" uuid) <|
      .field (.required "status" Wire.text) <|
      .field (.required "scope" anything) <|
      .field (.nullable "trace" traceAnswer) .done)
    (fun a => (a.taskId, a.status, a.scope, a.trace, ()))
    (fun (taskId, status, scope, trace, ()) => { taskId, status, scope, trace })

structure TaskAnswer where
  taskId : Uuid
  scope : Json
  actor : String
  status : String
  createdAt : String
  durationMillis : Option Int
  errorCode : Option String
  errorMessage : Option String
  evidence : Option Json
  trace : Option TraceAnswer
  retryOf : Option Uuid
  deriving DecidableEq, Repr

def taskAnswer : Codec TaskAnswer :=
  .ofLayout
    (.field (.required "task_id" uuid) <|
      .field (.required "scope" anything) <|
      .field (.required "actor" Wire.text) <|
      .field (.required "status" Wire.text) <|
      .field (.required "created_at" Wire.text) <|
      .field (.nullable "duration_ms" Wire.integer) <|
      .field (.nullable "error_code" Wire.text) <|
      .field (.nullable "error_message" Wire.text) <|
      .field (.nullable "evidence_diff" anything) <|
      .field (.nullable "trace" traceAnswer) <|
      .field (.nullable "retry_of" uuid) .done)
    (fun t => (t.taskId, t.scope, t.actor, t.status, t.createdAt, t.durationMillis, t.errorCode,
      t.errorMessage, t.evidence, t.trace, t.retryOf, ()))
    (fun (taskId, scope, actor, status, createdAt, durationMillis, errorCode, errorMessage, evidence,
        trace, retryOf, ()) =>
      { taskId, scope, actor, status, createdAt, durationMillis, errorCode, errorMessage, evidence,
        trace, retryOf })

structure EventAnswer where
  sequence : Nat
  status : String
  timestamp : String
  note : Option String
  deriving DecidableEq, Repr

def eventAnswer : Codec EventAnswer :=
  .ofLayout
    (.field (.required "sequence" Wire.word) <|
      .field (.required "status" Wire.text) <|
      .field (.required "timestamp" Wire.text) <|
      .field (.nullable "note" Wire.text) .done)
    (fun e => (e.sequence, e.status, e.timestamp, e.note, ()))
    (fun (sequence, status, timestamp, note, ()) => { sequence, status, timestamp, note })

/-- A task with its timeline. -/
structure HistoryAnswer where
  task : TaskAnswer
  latest : EventAnswer
  events : List EventAnswer
  deriving DecidableEq, Repr

def historyAnswer : Codec HistoryAnswer :=
  .ofLayout
    (.field (.required "task" taskAnswer) <|
      .field (.required "latest" eventAnswer) <|
      .field (.required "events" (Wire.list eventAnswer)) .done)
    (fun h => (h.task, h.latest, h.events, ()))
    (fun (task, latest, events, ()) => { task, latest, events })

/-- An entry of the retry queue. -/
structure EntryAnswer where
  entryId : Uuid
  originalTask : Uuid
  currentTask : Option Uuid
  scope : Json
  status : String
  attempts : Nat
  maxAttempts : Nat
  mode : String
  cooldownUntil : Option Instant
  lastError : Option String
  note : Option String
  state : String
  isEligible : Bool
  attemptsRemaining : Option Nat
  deriving DecidableEq, Repr

def entryAnswer : Codec EntryAnswer :=
  .ofLayout
    (.field (.required "queue_id" uuid) <|
      .field (.required "original_task_id" uuid) <|
      .field (.nullable "current_task_id" uuid) <|
      .field (.required "scope" anything) <|
      .field (.required "status" Wire.text) <|
      .field (.required "attempts" Wire.count) <|
      .field (.required "max_attempts" Wire.count) <|
      .field (.required "retry_mode" Wire.text) <|
      .field (.nullable "cooldown_until" Wire.instant) <|
      .field (.nullable "last_error" Wire.text) <|
      .field (.nullable "note" Wire.text) <|
      .field (.required "retry_state" Wire.text) <|
      .field (.required "eligible" Wire.bool) <|
      .field (.nullable "attempts_remaining" Wire.count) .done)
    (fun e => (e.entryId, e.originalTask, e.currentTask, e.scope, e.status, e.attempts, e.maxAttempts, e.mode,
      e.cooldownUntil, e.lastError, e.note, e.state, e.isEligible, e.attemptsRemaining, ()))
    (fun (entryId, originalTask, currentTask, scope, status, attempts, maxAttempts, mode, cooldownUntil,
        lastError, note, state, isEligible, attemptsRemaining, ()) =>
      { entryId, originalTask, currentTask, scope, status, attempts, maxAttempts, mode, cooldownUntil,
        lastError, note, state, isEligible, attemptsRemaining })

/-- The envelope of an answer with data of some type. -/
structure Envelope (α : Type) where
  success : Bool
  data : Option α
  error : Option String
  deriving DecidableEq, Repr

def readEnvelope (data : Decoder α) : Decoder (Envelope α) := fun origin d =>
  (Layout.read
    (.field (.required "success" Wire.bool) <|
      .field ⟨"data", fun (_ : Option α) => none, Decode.optional data, some none, none⟩ <|
      .field (.optionalInRecord "error" Wire.text) <|
      .field (.optionalInRecord "error_code" Wire.text) .done) origin d).map
    fun (success, data, error, _, ()) => ⟨success, data, error⟩

/-- An error that a server reports. -/
structure ErrorAnswer where
  code : String
  message : String
  details : Option Json
  deriving DecidableEq, Repr

def errorAnswer : Codec ErrorAnswer :=
  .ofLayout
    (.field (.required "code" Wire.text) <|
      .field (.required "message" Wire.text) <|
      .field (.nullable "details" anything) .done)
    (fun e => (e.code, e.message, e.details, ()))
    (fun (code, message, details, ()) => { code, message, details })

/-- The envelope of an error. -/
def errorReport : Codec ErrorAnswer :=
  .ofLayout (.field (.required "error" errorAnswer) .done) (fun e => (e, ())) (fun (e, ()) => e)

/-- A whole number without a sign that fits into 64 bits. -/
def wordOf? : Json → Option Nat
  | .number (.int (.ofNat n)) => if n ≤ Word.max64 then some n else none
  | _ => none

/-- The seconds to wait that an error names. -/
def ErrorAnswer.retryAfter (e : ErrorAnswer) : Option Nat :=
  e.details.bind fun details => wordOf? (details.field "retry_after_secs")

/-- A scope as a text: the keyword, or the keys with commas between them. -/
def scopeLabel : Json → String
  | .text s => s
  | .list keys => Text.join "," (keys.filterMap Json.text?)
  | j => j.compact

end Reindexing.Cli
