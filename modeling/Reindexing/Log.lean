import Reindexing.Decimal.Digits
import Reindexing.Json.Value
import Reindexing.Text.Quoted

/-!
# Log events

What the program tells its operators while it works: a message with named
values, a level, the part of the program that speaks, and the spans of work in
which it happened. Events are data; which of them are shown, and how, is decided
elsewhere.
-/
namespace Reindexing

/-- Levels from the most to the least detailed. -/
inductive LogLevel where
  | trace
  | debug
  | info
  | warn
  | error
  deriving DecidableEq, Repr, Inhabited

namespace LogLevel

def every : List LogLevel := [.trace, .debug, .info, .warn, .error]

def name : LogLevel → String
  | .trace => "TRACE"
  | .debug => "DEBUG"
  | .info => "INFO"
  | .warn => "WARN"
  | .error => "ERROR"

/-- The place of a level: the more it matters, the higher. -/
def rank : LogLevel → Nat
  | .trace => 0
  | .debug => 1
  | .info => 2
  | .warn => 3
  | .error => 4

end LogLevel

inductive LogValue where
  /-- A text that is shown as it is. -/
  | shown (text : String)
  /-- A text that is shown in quotes where values stand side by side. -/
  | plain (text : String)
  | number (n : Nat)
  | flag (b : Bool)
  deriving DecidableEq, Repr

namespace LogValue

def toText : LogValue → String
  | .shown s => s
  | .plain s => Text.quoted s
  | .number n => Decimal.ofNat n
  | .flag b => if b then "true" else "false"

def toJson : LogValue → Json
  | .shown s | .plain s => .text s
  | .number n => .nat n
  | .flag b => .bool b

/-- An optional text as people inspect it. -/
def ofOption (text : Option String) : LogValue := .shown (Text.inspectOption Text.quoted text)

end LogValue

/-- A span of work, such as one run of a task. -/
structure LogSpan where
  name : String
  target : String
  level : LogLevel
  fields : List (String × LogValue)
  deriving DecidableEq, Repr

structure LogEvent where
  level : LogLevel
  /-- The part of the program that speaks. -/
  target : String
  message : String
  fields : List (String × LogValue)
  /-- The spans around the event, outermost first. -/
  spans : List LogSpan
  deriving DecidableEq, Repr

namespace LogEvent

/-- The message and the values of an event as a record. -/
def fieldsToJson (e : LogEvent) : Json :=
  .record (("message", .text e.message) :: e.fields.map fun (name, value) => (name, value.toJson))

end LogEvent

end Reindexing
