import Reindexing.Error
import Reindexing.Wire.Basic

/-!
# Wire forms of errors

Codes, severities and details by themselves, the envelope in which an error is
sent, and the general envelope of answers. Internal messages and sources never
go on the wire.
-/
namespace Reindexing.Wire

open Json

def errorCode : Codec ErrorCode := choice ErrorCode.name ErrorCode.every

def severity : Codec Severity := choice Severity.name Severity.every

/-- The context of an error, which is left out when it is empty. -/
def contextField : Json.Field (List (String × Json)) :=
  ⟨"context", fun c => if c.isEmpty then none else some (.record c), Decode.anyRecord, some [], some []⟩

def details : Codec ErrorDetails :=
  .ofLayout
    (.field contextField <|
      .field (.optionalInRecord "entity_id" text) <|
      .field (.optionalInRecord "entity_type" text) <|
      .field (.optionalInRecord "retry_after_secs" word) <|
      .field (.optionalInRecord "suggested_action" text) .done)
    (fun d => (d.context, d.entityId, d.entityType, d.retryAfter, d.suggestion, ()))
    (fun (context, entityId, entityType, retryAfter, suggestion, ()) =>
      { context, entityId, entityType, retryAfter, suggestion })

/-- The envelope in which an error is sent at the time `timestamp`. -/
def errorEnvelope (e : Error) (timestamp : String) : Json :=
  let details := if e.details.isEmpty then [] else [("details", details.write e.details)]
  .record [("success", .bool false),
    ("error", .record ([("code", errorCode.write e.code), ("numeric_code", .nat e.code.number),
      ("message", .text e.user)] ++ details ++ [("timestamp", .text timestamp)]))]

/-- The general envelope: either data, or an error with its code. -/
structure Answer where
  success : Bool
  data : Option Json
  error : Option String
  errorCode : Option String
  deriving DecidableEq, Repr

def Answer.ofData (data : Json) : Answer := ⟨true, some data, none, none⟩

def Answer.ofCode (message code : String) : Answer := ⟨false, none, some message, some code⟩

def Answer.ofError (e : Error) : Answer := .ofCode e.user e.code.title

def answer : Codec Answer :=
  .ofLayout
    (.field (.required "success" bool) <|
      .field (.optionalInRecord "data" ⟨id, Decode.anything⟩) <|
      .field (.optionalInRecord "error" text) <|
      .field (.optionalInRecord "error_code" text) .done)
    (fun a => (a.success, a.data, a.error, a.errorCode, ()))
    (fun (success, data, error, errorCode, ()) => { success, data, error, errorCode })

/-- The envelope of an answer with data. -/
def dataEnvelope (data : Json) : Json := answer.write (.ofData data)

end Reindexing.Wire
