import Reindexing.Disk
import Reindexing.Error.Code
import Reindexing.Json.Decoder
import Reindexing.Log
import Reindexing.Refusal

/-!
# Errors

An error has a code, a message for users, perhaps an internal message, and
details that a client can act on. Refusals, faults of the disk and faults of
JSON text are causes; here they get their wording. The text of an error names
the code, then the message, then the internal message in brackets. An error is
logged at a level that its severity decides, and only errors that matter much tell
the internal message there.
-/
namespace Reindexing

/-- What a client may want to know besides the message. -/
structure ErrorDetails where
  /-- Further values by sorted keys. -/
  context : List (String × Json)
  entityId : Option String
  entityType : Option String
  retryAfter : Option Nat
  suggestion : Option String
  deriving DecidableEq, Repr, Inhabited

namespace ErrorDetails

def empty : ErrorDetails := ⟨[], none, none, none, none⟩

def withEntity (d : ErrorDetails) (type id : String) : ErrorDetails :=
  { d with entityType := some type, entityId := some id }

def withContext (d : ErrorDetails) (key : String) (value : Json) : ErrorDetails :=
  { d with context := Json.putSorted key value d.context }

def withSuggestion (d : ErrorDetails) (text : String) : ErrorDetails := { d with suggestion := some text }

/-- Whether the details say nothing; a type of entity alone does not count. -/
def isEmpty (d : ErrorDetails) : Bool :=
  d.context.isEmpty && d.entityId.isNone && d.retryAfter.isNone && d.suggestion.isNone

end ErrorDetails

structure Error where
  code : ErrorCode
  user : String
  internal : Option String
  details : ErrorDetails
  /-- The text of the error that led to this one. -/
  source : Option String
  deriving DecidableEq, Repr

namespace Error

def new (code : ErrorCode) (user : String) : Error := ⟨code, user, none, .empty, none⟩

def withInternal (code : ErrorCode) (user internal : String) : Error := { new code user with internal := some internal }

/-- The whole text of an error. -/
def toText (e : Error) : String :=
  let head := "[" ++ e.code.title ++ "] " ++ e.user
  match e.internal with
  | some text => head ++ " (internal: " ++ text ++ ")"
  | none => head

def internalMessage : String := "An internal error occurred"

def ofInternal (text : String) : Error := withInternal .internalError internalMessage text

def ofValidation (text : String) : Error := new .validationError text

def ofConfiguration (text : String) : Error := new .invalidConfiguration text

def ofScopeReason (reason : String) : Error := new .invalidScope ("Invalid scope: " ++ reason)

def ofScope (r : Scope.Refusal) : Error := ofScopeReason r.message

/-- A status name that is not known. -/
def unknownStatus (what text : String) : Error := ofValidation ("Unknown " ++ what ++ ": " ++ text)

/-- The error of a busy scope, which is given by its label. -/
def scopeBusy (label task : String) : Error :=
  { new .scopeBusy ("Scope '" ++ label ++ "' overlaps an active reindex task") with
    details := ((ErrorDetails.empty.withEntity "task" task).withContext "scope" (.text label)).withSuggestion
      "Wait for the active task to finish" }

def entryNotFound (entry : String) : Error :=
  { new .queueEntryNotFound ("Queue entry not found: " ++ entry) with
    details := ErrorDetails.empty.withEntity "queue_entry" entry }

def notEligible (entry reason : String) (retryAfter : Option Nat) : Error :=
  let details := ((ErrorDetails.empty.withEntity "queue_entry" entry).withContext "reason" (.text reason)).withSuggestion
    "Wait for the cooldown or force a manual retry"
  { new .notEligible ("Queue entry " ++ entry ++ " is not eligible for retry: " ++ reason) with
    details := { details with retryAfter } }

def taskDetails (task : TaskId) : ErrorDetails := ErrorDetails.empty.withEntity "task" task.toText

/-- The error that reports a refusal. -/
def ofRefusal : Refusal → Error
  | .taskNotFound task =>
    { new .taskNotFound ("Task not found: " ++ task.toText) with details := taskDetails task }
  | .scopeBusy scope active => scopeBusy scope.label active.toText
  | .invalidTransition task status next =>
    { new .invalidStateTransition ("Invalid task state transition: " ++ status.name ++ " -> " ++ next.name) with
      details := ((taskDetails task).withContext "from_state" (.text status.name)).withContext "to_state"
        (.text next.name) }
  | .outcomeRecorded task status =>
    { new .outcomeAlreadyRecorded
        ("Task " ++ task.toText ++ " already finished with status " ++ status.name) with
      details := (taskDetails task).withContext "status" (.text status.name) }
  | .entryNotFound entry => entryNotFound entry.toText
  | .notEligible entry .inFlight => notEligible entry.toText "a retry is already running" none
  | .notEligible entry (.coolingDown wait) => notEligible entry.toText "cooling down" (some wait)
  | .notEligible entry .exhausted => notEligible entry.toText "automatic attempts exhausted" none

/-- Writing the audit file failed. -/
def auditWrite (path : String) (fault : DiskError) : Error :=
  { withInternal .auditWriteFailed "Failed to write audit record" (path ++ ": " ++ fault.message) with
    source := some fault.message }

/-- Reading the audit file failed. -/
def auditRead (path : String) (fault : DiskError) : Error :=
  { withInternal .auditReadFailed "Failed to read audit trail" (path ++ ": " ++ fault.message) with
    source := some fault.message }

/-- A JSON text that ends too early is invalid; other faults are faults of decoding. -/
def ofJson (fault : Json.DecodeError) : Error :=
  let (code, text) := match fault with
    | .flaw .truncated => (ErrorCode.invalidJson, "unexpected end of text")
    | .flaw .malformed => (.deserializationError, "malformed text")
    | .mismatch => (.deserializationError, "unexpected value")
    | .refused reason => (.deserializationError, reason)
  { withInternal code "Failed to process JSON data" text with source := some text }

end Error

/-! ### Logging -/

def Severity.level : Severity → LogLevel
  | .low => .debug
  | .medium => .warn
  | .high | .critical => .error

def Severity.headline : Severity → String
  | .low => "Low severity error"
  | .medium => "Medium severity error"
  | .high => "High severity error"
  | .critical => "CRITICAL ERROR"

/-- The event that tells of an error. -/
def Error.event (e : Error) : LogEvent :=
  let internal := match e.code.severity with
    | .high | .critical => [("internal_message", LogValue.ofOption e.internal)]
    | _ => []
  ⟨e.code.severity.level, "reindex_core::error", e.code.severity.headline,
    [("error_code", .shown e.code.title), ("category", .plain e.code.category),
      ("http_status", .number e.code.httpStatus), ("user_message", .shown e.user)] ++ internal, []⟩

end Reindexing
