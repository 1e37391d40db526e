/-!
# Error codes

Every error has one code from a fixed list, and clients branch on the code
rather than on messages. The code decides the number, the HTTP status, the
category, the severity and whether asking again may help.
-/
namespace Reindexing

inductive ErrorCode where
  | taskNotFound
  | invalidScope
  | scopeBusy
  | invalidStateTransition
  | outcomeAlreadyRecorded
  | queueEntryNotFound
  | notEligible
  | serializationError
  | deserializationError
  | invalidJson
  | auditWriteFailed
  | auditReadFailed
  | validationError
  | configurationError
  | missingConfiguration
  | invalidConfiguration
  | internalError
  deriving DecidableEq, Repr, Inhabited

/-- How much an error matters to operators. -/
inductive Severity where
  | low
  | medium
  | high
  | critical
  deriving DecidableEq, Repr, Inhabited

namespace Severity

def every : List Severity := [.low, .medium, .high, .critical]

def name : Severity → String
  | .low => "low"
  | .medium => "medium"
  | .high => "high"
  | .critical => "critical"

/-- The name in metrics. -/
def title : Severity → String
  | .low => "Low"
  | .medium => "Medium"
  | .high => "High"
  | .critical => "Critical"

end Severity

namespace ErrorCode

def every : List ErrorCode :=
  [.taskNotFound, .invalidScope, .scopeBusy, .invalidStateTransition, .outcomeAlreadyRecorded,
    .queueEntryNotFound, .notEligible, .serializationError, .deserializationError, .invalidJson,
    .auditWriteFailed, .auditReadFailed, .validationError, .configurationError, .missingConfiguration,
    .invalidConfiguration, .internalError]

/-- The name in messages. -/
def title : ErrorCode → String
  | .taskNotFound => "TaskNotFound"
  | .invalidScope => "InvalidScope"
  | .scopeBusy => "ScopeBusy"
  | .invalidStateTransition => "InvalidStateTransition"
  | .outcomeAlreadyRecorded => "OutcomeAlreadyRecorded"
  | .queueEntryNotFound => "QueueEntryNotFound"
  | .notEligible => "NotEligible"
  | .serializationError => "SerializationError"
  | .deserializationError => "DeserializationError"
  | .invalidJson => "InvalidJson"
  | .auditWriteFailed => "AuditWriteFailed"
  | .auditReadFailed => "AuditReadFailed"
  | .validationError => "ValidationError"
  | .configurationError => "ConfigurationError"
  | .missingConfiguration => "MissingConfiguration"
  | .invalidConfiguration => "InvalidConfiguration"
  | .internalError => "InternalError"

/-- The name on the wire. -/
def name : ErrorCode → String
  | .taskNotFound => "TASK_NOT_FOUND"
  | .invalidScope => "INVALID_SCOPE"
  | .scopeBusy => "SCOPE_BUSY"
  | .invalidStateTransition => "INVALID_STATE_TRANSITION"
  | .outcomeAlreadyRecorded => "OUTCOME_ALREADY_RECORDED"
  | .queueEntryNotFound => "QUEUE_ENTRY_NOT_FOUND"
  | .notEligible => "NOT_ELIGIBLE"
  | .serializationError => "SERIALIZATION_ERROR"
  | .deserializationError => "DESERIALIZATION_ERROR"
  | .invalidJson => "INVALID_JSON"
  | .auditWriteFailed => "AUDIT_WRITE_FAILED"
  | .auditReadFailed => "AUDIT_READ_FAILED"
  | .validationError => "VALIDATION_ERROR"
  | .configurationError => "CONFIGURATION_ERROR"
  | .missingConfiguration => "MISSING_CONFIGURATION"
  | .invalidConfiguration => "INVALID_CONFIGURATION"
  | .internalError => "INTERNAL_ERROR"

def number : ErrorCode → Nat
  | .taskNotFound => 1000
  | .invalidScope => 1001
  | .scopeBusy => 1002
  | .invalidStateTransition => 1003
  | .outcomeAlreadyRecorded => 1004
  | .queueEntryNotFound => 1100
  | .notEligible => 1101
  | .serializationError => 2200
  | .deserializationError => 2201
  | .invalidJson => 2202
  | .auditWriteFailed => 2300
  | .auditReadFailed => 2301
  | .validationError => 4100
  | .configurationError => 5000
  | .missingConfiguration => 5001
  | .invalidConfiguration => 5002
  | .internalError => 9000

/-- The group of codes that share the number's hundreds. -/
def category (code : ErrorCode) : String :=
  match code.number / 100 with
  | 10 => "task"
  | 11 => "retry_queue"
  | 22 => "serialization"
  | 23 => "audit"
  | 41 => "validation"
  | 50 => "configuration"
  | _ => "internal"

def httpStatus : ErrorCode → Nat
  | .taskNotFound | .queueEntryNotFound => 404
  | .invalidScope | .validationError | .deserializationError | .invalidJson => 400
  | .scopeBusy | .notEligible | .invalidStateTransition | .outcomeAlreadyRecorded => 409
  | _ => 500

/-- A busy scope becomes free when its task ends; no other error passes by itself. -/
def isRetryable (code : ErrorCode) : Bool := code = .scopeBusy

def severity : ErrorCode → Severity
  | .taskNotFound | .invalidScope | .scopeBusy | .queueEntryNotFound | .notEligible | .validationError
  | .deserializationError | .invalidJson => .low
  | .auditWriteFailed => .medium
  | .internalError => .critical
  | _ => .high

end ErrorCode

end Reindexing
