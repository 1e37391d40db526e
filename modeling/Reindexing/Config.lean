import Reindexing.Audit
import Reindexing.Cooldown

/-!
# Configuration

The settings of the program by section, their defaults, and the rules that a
usable configuration keeps. The first rule that is broken is reported.
-/
namespace Reindexing

structure ServerSettings where
  host : String
  port : Nat
  deriving DecidableEq, Repr

structure ObservabilitySettings where
  /-- Where traces are sent. -/
  otlpEndpoint : Option String
  logLevel : String
  jsonLogging : Bool
  /-- The address of a trace in a viewer. -/
  traceUrlTemplate : Option String
  deriving DecidableEq, Repr

structure RetrySettings where
  maxAttempts : Nat
  baseCooldown : Span
  maxCooldown : Span
  jitterFactor : Float

structure ExecutionSettings where
  timeout : Span
  deriving DecidableEq, Repr

structure SchedulerSettings where
  enabled : Bool
  pollInterval : Span
  deriving DecidableEq, Repr

structure AuditSettings where
  path : Option String
  maxInMemory : Nat
  deriving DecidableEq, Repr

structure EvidenceSettings where
  sampleCap : Nat
  deriving DecidableEq, Repr

structure Config where
  server : ServerSettings
  observability : ObservabilitySettings
  retry : RetrySettings
  execution : ExecutionSettings
  scheduler : SchedulerSettings
  audit : AuditSettings
  evidence : EvidenceSettings

namespace Config

def default : Config where
  server := ⟨"0.0.0.0", 8080⟩
  observability := ⟨none, "info", true, none⟩
  retry := ⟨3, .ofSeconds 30, .ofSeconds 1800, 0.1⟩
  execution := ⟨.ofSeconds 1800⟩
  scheduler := ⟨true, .ofSeconds 10⟩
  audit := ⟨none, AuditLog.defaultLimit⟩
  evidence := ⟨Evidence.defaultCap⟩

instance : Inhabited Config := ⟨default⟩

/-- The cooldowns that the settings ask for. -/
def policy (c : Config) : CooldownPolicy :=
  (CooldownPolicy.ofSpans c.retry.baseCooldown c.retry.maxCooldown).withJitter c.retry.jitterFactor

/-- The first rule that the settings break. -/
def brokenRule? (c : Config) : Option String :=
  if c.retry.maxAttempts = 0 then some "retry.max_attempts must be at least 1"
  else if c.retry.maxCooldown < c.retry.baseCooldown then
    some "retry.base_cooldown must not exceed retry.max_cooldown"
  else if !(decide (0.0 ≤ c.retry.jitterFactor) && decide (c.retry.jitterFactor ≤ 1.0)) then
    some "retry.jitter_factor must be between 0.0 and 1.0"
  else if c.execution.timeout.isZero then some "execution.timeout must be positive"
  else if c.scheduler.pollInterval.isZero then some "scheduler.poll_interval must be positive"
  else if c.evidence.sampleCap = 0 then some "evidence.sample_cap must be at least 1"
  else none

def validate (c : Config) : Except Error Unit :=
  match c.brokenRule? with
  | some rule => .error (.ofConfiguration rule)
  | none => .ok ()

end Config

end Reindexing
