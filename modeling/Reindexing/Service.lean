import Reindexing.Api
import Reindexing.Cli.CommandLine
import Reindexing.Cli.Help
import Reindexing.Config.Load
import Reindexing.Dotenv
import Reindexing.Engine.Loop
import Reindexing.Log.Output

/-!
# Service

A service from its start to its shutdown: it reads its command line and its
configuration, sets up logging and the audit trail, answers requests while the
scheduler runs, and stops. A start that fails ends with a code and a message.
-/
namespace Reindexing.Service

def program : String := "reindex-server"

def target : String := "reindex_server"

def grammar : Cli.Grammar :=
  ⟨program, "Retryable reindex job server", none,
    [{ Cli.Parameter.option "config" (some 'c') "CONFIG"
          "Configuration file (TOML, YAML or JSON); environment overrides it" with
        envName := some "REINDEX_CONFIG" }], []⟩

/-- What a service is started in. -/
structure Surroundings where
  environment : List (String × String)
  disk : Disk
  supply : Supply
  /-- The text of the present time. -/
  time : String
  /-- The identifier of a request that brings none. -/
  freshRequestId : String

/-- How a start ends that leads to no running service. -/
structure Ending where
  code : Nat
  output : String
  error : String
  /-- What was logged before. -/
  logged : List Json

structure Running where
  host : String
  port : Nat
  server : Api.Server
  loop : EventLoop
  output : LogOutput
  /-- What happened before there was an engine. -/
  early : List LogEvent

def event (message : String) (fields : List (String × LogValue)) : LogEvent := ⟨.info, target, message, fields, []⟩

def metricsEvent : LogEvent :=
  ⟨.info, "reindex_core::observability::metrics", "Metrics initialized", [("service_name", .shown program)], []⟩

def startEvent (c : Config) : LogEvent :=
  event "Starting Reindex Server"
    [("version", .plain Api.version), ("max_attempts", .number c.retry.maxAttempts),
      ("execution_timeout_secs", .number (c.execution.timeout.millis / 1000))]

def auditFileEvent (path : String) : LogEvent := event "Audit trail mirrored to file" [("path", .shown path)]

/-- Opens the audit trail that the configuration asks for. -/
def openAudit (s : AuditSettings) (disk : Disk) : Disk × Except Error AuditLog :=
  match s.path with
  | some path => AuditLog.withFile path s.maxInMemory disk
  | none => (disk, .ok (.inMemory s.maxInMemory))

/-- The address that a service listens at. -/
def address (c : Config) : String := c.server.host ++ ":" ++ Decimal.ofNat c.server.port

/-- The message that a failed start ends with. -/
def failure (message : String) (logged : List Json) : Ending := ⟨1, "", "Error: " ++ message, logged⟩

/-- Starts a service with its configuration. -/
def startWith (s : Surroundings) (c : Config) (output : LogOutput) : Except Ending Running :=
  let early := [metricsEvent, startEvent c] ++ (c.audit.path.map auditFileEvent).toList
  match openAudit c.audit s.disk with
  | (_, .error error) => .error (failure error.toText (output.lines early))
  | (disk, .ok audit) =>
    let engine := Engine.ofConfig c audit disk .noop s.supply
    let loop := EventLoop.ofEngine engine
    let loop := if c.scheduler.enabled then loop.startScheduler c.scheduler.pollInterval else loop
    let (loop, ()) := loop.onEngine fun e =>
      (e.tell (event "Starting HTTP server" [("address", .shown (address c))]), ())
    .ok ⟨c.server.host, c.server.port, ⟨some program, s.time, s.freshRequestId⟩, loop.settle, output, early⟩

/-- What is said instead of starting. -/
def endingOf (env : String → Option String) : Cli.Halt → Ending
  | .refused fault => ⟨2, "", "error: " ++ fault.message, []⟩
  | .help path g isLong => ⟨0, Cli.helpText env path [] g isLong, "", []⟩
  | .helpOnHelp path => ⟨0, Cli.helpOnHelpText path, "", []⟩
  | .guidance path g => ⟨2, "", Cli.helpText env path [] g false, []⟩
  | .version path => ⟨0, Text.join "-" path ++ " " ++ Api.version ++ "\n", "", []⟩

/-- The variables, with those of a file in the working directory. -/
def allVariables (s : Surroundings) : List (String × String) :=
  match s.disk.read [".env"] with
  | .ok text => Dotenv.extend s.environment text
  | .error _ => s.environment

/-- Starts a service. -/
def start (s : Surroundings) (words : List String) : Except Ending Running := do
  let environment := allVariables s
  let env (name : String) : Option String := environment.lookup name
  let levels ← (grammar.read env words).mapError (endingOf env)
  let config ← (Config.load s.disk environment (Cli.valueOf? levels "config")).mapError fun fault =>
    failure fault.message []
  match LogOutput.ofSettings? (env "RUST_LOG") config.observability with
  | none => .error (failure "invalid log settings" [])
  | some output => startWith s config output

namespace Running

/-- Whether the service still runs. -/
def isUp (r : Running) : Bool := r.loop.engine.isUp

/-- Answers a request. -/
def respond (r : Running) (request : Http.Request) : Running × Http.Response :=
  let (loop, response) := r.loop.onEngine (r.server.respond request)
  ({ r with loop := loop.settle }, response)

def tell (r : Running) (e : LogEvent) : Running :=
  { r with loop := (r.loop.onEngine fun engine => (engine.tell e, ())).1 }

/-- Shuts down: the scheduler stops, and everything is logged. -/
def stop (r : Running) : Running :=
  let r := r.tell (event "Shutdown signal received" [])
  let r := { r with loop := r.loop.stopScheduler.1 }
  r.tell (event "Server shutdown complete" [])

/-- The lines that were logged. -/
def logged (r : Running) : List Json := r.output.lines (r.early ++ r.loop.engine.events)

end Running

end Reindexing.Service
