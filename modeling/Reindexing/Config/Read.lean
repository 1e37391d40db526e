import Reindexing.Config
import Reindexing.Decimal.Nearest
import Reindexing.Error
import Reindexing.Text.Lowercase
import Reindexing.Text.Quoted
import Reindexing.Word

/-!
# Reading settings

A setting takes the type that it needs from whatever a file or a variable gives:
texts read as numbers and truth values, and the other way round. Sections are
tables, or lists of their settings in order; what is missing keeps its default.
A configuration cannot be read when a source is missing or malformed, or when a
value does not have the type that its setting needs; this fault is reported as an
error whose code tells the kinds apart.
-/
namespace Reindexing

inductive ConfigFault where
  /-- A setting that must be there is missing. -/
  | notFound (key : String)
  /-- A file is malformed. -/
  | fileParse (cause : String)
  /-- The value of a setting has the wrong type. -/
  | type (key : String)
  | message (text : String)
  /-- A fault from outside, such as a file that is missing. -/
  | foreign (text : String)
  /-- Settings changed after they were fixed. -/
  | frozen
  deriving DecidableEq, Repr

namespace ConfigFault

/-- The name of the kind of a fault. -/
def kind : ConfigFault → String
  | .notFound _ => "NotFound"
  | .fileParse _ => "FileParse"
  | .type _ => "Type"
  | .message _ => "Message"
  | .foreign _ => "Foreign"
  | .frozen => "Frozen"

/-- The key of a setting with the wrong type. -/
def key? : ConfigFault → Option String
  | .type key => some key
  | _ => none

def toText : ConfigFault → String
  | .notFound key => "configuration property " ++ Text.quoted key ++ " not found"
  | .fileParse cause => cause
  | .type key => "invalid type for key " ++ key
  | .message text => text
  | .foreign text => text
  | .frozen => "configuration is frozen"

end ConfigFault

def Error.ofConfigFault (fault : ConfigFault) : Error :=
  let (code, user) := match fault with
    | .notFound _ => (ErrorCode.missingConfiguration, "Required configuration not found")
    | .fileParse _ => (.invalidConfiguration, "Configuration file is invalid")
    | _ => (.configurationError, "Configuration error occurred")
  Error.withInternal code user fault.toText

end Reindexing

namespace Reindexing.Config

/-- Reads the value of the setting with a given key. -/
abbrev Reader (α : Type) := String → Json → Except ConfigFault α

/-- The truth value that a word names, in any case. -/
def truthWord? (s : String) : Option Bool :=
  match Text.lowercase s with
  | "true" | "on" | "yes" => some true
  | "false" | "off" | "no" => some false
  | _ => none

/-- The nearest whole number of 64 bits; a half goes away from zero. -/
def roundToWord (x : Float) : Nat := x.round.toUInt64.toNat

/-- The whole number of a text, with a plus perhaps. -/
def wordOfText? (s : String) : Option Nat :=
  let digits := match s.toList with
    | '+' :: rest => rest
    | cs => cs
  (Decimal.readNat? digits).filter (· ≤ Word.max64)

def toWord? : Json → Option Nat
  | .number (.int i) =>
    if i < 0 then none else if i ≤ Word.maxInt64 then some i.toNat else some (roundToWord (Float.ofInt i))
  | .number (.real bits) => some (roundToWord (Float.ofBits bits))
  | .bool b => some (if b then 1 else 0)
  | .text s =>
    match truthWord? s with
    | some b => some (if b then 1 else 0)
    | none => wordOfText? s
  | _ => none

/-- Reads a whole number up to `max`. -/
def readWord (max : Nat) : Reader Nat := fun key j =>
  match toWord? j with
  | some n => if n ≤ max then .ok n else .error (.type key)
  | none => .error (.type key)

def readFlag : Reader Bool := fun key j =>
  match j with
  | .bool b => .ok b
  | .number (.int i) => .ok (i != 0)
  | .number (.real bits) => .ok (Float.ofBits bits != 0.0)
  | .text "1" => .ok true
  | .text "0" => .ok false
  | .text s =>
    match truthWord? s with
    | some b => .ok b
    | none => .error (.type key)
  | _ => .error (.type key)

def readFraction : Reader Float := fun key j =>
  match j with
  | .bool b => .ok (if b then 1.0 else 0.0)
  | .number (.int i) => .ok (Float.ofInt i)
  | .number (.real bits) => .ok (Float.ofBits bits)
  | .text s =>
    match truthWord? s, Decimal.readFloat? s.toList with
    | some b, _ => .ok (if b then 1.0 else 0.0)
    | none, some x => .ok x
    | none, none => .error (.type key)
  | _ => .error (.type key)

def readText : Reader String := fun key j =>
  match j with
  | .text s => .ok s
  | .bool b => .ok (if b then "true" else "false")
  | .number (.int i) => .ok (Decimal.ofInt i)
  | .number (.real bits) => .ok (Decimal.write Decimal.plain bits)
  | _ => .error (.type key)

def readOptionalText : Reader (Option String) := fun key j =>
  match j with
  | .null => .ok none
  | j => (readText key j).map some

/-- Reads a span of time as people write it. -/
def readSpan : Reader Span := fun key j => do
  let s ← readText key j
  match Span.read? s with
  | some span => .ok span
  | none => .error (.message ("invalid value: " ++ s))

/-- One setting of a section. -/
structure Setting (σ : Type) where
  name : String
  /-- Whether a list may end before it. -/
  hasDefault : Bool
  put : String → Json → σ → Except ConfigFault σ

def setting (name : String) (reader : Reader α) (put : σ → α → σ) : Setting σ :=
  ⟨name, true, fun key j s => (reader key j).map (put s)⟩

def optionalSetting (name : String) (put : σ → Option String → σ) : Setting σ :=
  { setting name readOptionalText put with hasDefault := false }

def readTable (title : String) (settings : List (Setting σ)) (entries : List (String × Json)) (s : σ) :
    Except ConfigFault σ :=
  settings.foldlM (fun s setting =>
    match entries.find? (·.1 = setting.name) with
    | some (name, j) => setting.put (title ++ "." ++ name) j s
    | none => .ok s) s

def readList (title : String) (index : Nat) : List (Setting σ) → List Json → σ → Except ConfigFault σ
  | [], _, s => .ok s
  | setting :: settings, [], s =>
    if setting.hasDefault then readList title index settings [] s else .error (.message "invalid length")
  | setting :: settings, j :: rest, s => do
    let s ← setting.put (title ++ "[" ++ Decimal.ofNat index ++ "]") j s
    readList title (index + 1) settings rest s

/-- Reads a section, if it is there. -/
def readSection (title : String) (settings : List (Setting σ)) (root : Json) (s : σ) : Except ConfigFault σ :=
  match root.field? title with
  | none => .ok s
  | some (.record entries) => readTable title settings entries s
  | some (.list items) => readList title 0 settings items s
  | some _ => .error (.message ("invalid type for " ++ title))

def serverSettings : List (Setting ServerSettings) :=
  [setting "host" readText fun s host => { s with host }, setting "port" (readWord 65535) fun s port => { s with port }]

def observabilitySettings : List (Setting ObservabilitySettings) :=
  [optionalSetting "otlp_endpoint" fun s otlpEndpoint => { s with otlpEndpoint },
    setting "log_level" readText fun s logLevel => { s with logLevel },
    setting "json_logging" readFlag fun s jsonLogging => { s with jsonLogging },
    optionalSetting "trace_url_template" fun s traceUrlTemplate => { s with traceUrlTemplate }]

def retrySettings : List (Setting RetrySettings) :=
  [setting "max_attempts" (readWord Word.max32) fun s maxAttempts => { s with maxAttempts },
    setting "base_cooldown" readSpan fun s baseCooldown => { s with baseCooldown },
    setting "max_cooldown" readSpan fun s maxCooldown => { s with maxCooldown },
    setting "jitter_factor" readFraction fun s jitterFactor => { s with jitterFactor }]

def executionSettings : List (Setting ExecutionSettings) :=
  [setting "timeout" readSpan fun s timeout => { s with timeout }]

def schedulerSettings : List (Setting SchedulerSettings) :=
  [setting "enabled" readFlag fun s enabled => { s with enabled },
    setting "poll_interval" readSpan fun s pollInterval => { s with pollInterval }]

def auditSettings : List (Setting AuditSettings) :=
  [optionalSetting "path" fun s path => { s with path },
    setting "max_in_memory" (readWord Word.max64) fun s maxInMemory => { s with maxInMemory }]

def evidenceSettings : List (Setting EvidenceSettings) :=
  [setting "sample_cap" (readWord Word.max64) fun s sampleCap => { s with sampleCap }]

/-- The configuration in a table of settings. -/
def ofJson (root : Json) : Except ConfigFault Config := do
  let c := default
  pure {
    server := ← readSection "server" serverSettings root c.server
    observability := ← readSection "observability" observabilitySettings root c.observability
    retry := ← readSection "retry" retrySettings root c.retry
    execution := ← readSection "execution" executionSettings root c.execution
    scheduler := ← readSection "scheduler" schedulerSettings root c.scheduler
    audit := ← readSection "audit" auditSettings root c.audit
    evidence := ← readSection "evidence" evidenceSettings root c.evidence }

end Reindexing.Config
