import Reindexing.Cli.CommandLine
import Reindexing.Cli.Help
import Reindexing.Queue.Entry

/-!
# Commands of an operator

What an operator may ask of a server, and of the settings at hand: the commands
themselves, the grammar of the command line that names them, and the way from
the one to the other.
-/
namespace Reindexing.Cli

/-- What an operator wants reindexed. -/
inductive Selection where
  | every
  | sources (keys : List String)
  deriving DecidableEq, Repr

/-- The items of a list that an operator wants to see. -/
structure Listing where
  statuses : List String
  query : Option String
  deriving DecidableEq, Repr

inductive Command where
  | submit (selection : Selection) (note traceId : Option String)
  | history (listing : Listing)
  | task (id : Uuid)
  | auditTrail (file : Option String)
  | queueList (listing : Listing)
  | queueShow (id : Uuid)
  | queueRetry (id : Uuid) (note : Option String) (force : Bool)
  | queueRemove (id : Uuid)
  | queueMode (id : Uuid) (mode : RetryMode)
  | health (isDetailed : Bool)
  | setSetting (key value : String)
  | getSetting (key : String)
  | showSettings
  | resetSettings (force : Bool)
  deriving DecidableEq, Repr

/-- How results are written. -/
inductive Format where
  | table
  | json
  | yaml
  deriving DecidableEq, Repr

def Format.name : Format → String
  | .table => "table"
  | .json => "json"
  | .yaml => "yaml"

def Format.every : List Format := [.table, .json, .yaml]

def Format.meaning : Format → String
  | .table => "Render as a formatted table"
  | .json => "Render as JSON"
  | .yaml => "Render as YAML"

/-- A command with the options around it. -/
structure Invocation where
  command : Command
  format : Format
  apiUrl : Option String
  actor : Option String
  noColor : Bool
  deriving DecidableEq, Repr

namespace Grammar

/-- The name of the program. -/
def program : String := "reindexctl"

def globalOptions : List Parameter :=
  let choices := Format.every.map fun f => (f.name, some f.meaning)
  [{ Parameter.option "output" (some 'o') "OUTPUT" "Output format" with
      reading := .choice choices, default := some Format.table.name },
    { Parameter.option "api-url" none "API_URL" "API server URL" with envName := some "REINDEX_API_URL" },
    { Parameter.option "actor" none "ACTOR" "Actor recorded on submissions, retries, and queue changes" with
      envName := some "REINDEX_ACTOR" },
    .flag "no-color" none "Disable colored output"]

/-- A command without commands of its own. -/
def leaf (name about : String) (parameters : List Parameter) : Grammar := ⟨name, about, none, parameters, []⟩

def queueId : Parameter := .argument "queue-id" "QUEUE_ID" (some "Queue entry ID") .uuid

/-- The options that narrow a list down. -/
def listOptions (statuses fields : String) : List Parameter :=
  [{ Parameter.option "status" (some 's') "STATUS" ("Filter by status (" ++ statuses ++ "); repeatable") with
      repeats := true },
    .option "query" (some 'q') "QUERY" ("Case-insensitive search over " ++ fields)]

def submit : Grammar :=
  leaf "submit" "Submit a reindex for a scope"
    [{ Parameter.argument "sources" "SOURCES" (some "Source keys to reindex") .text with
        repeats := true, required := false, insteadOf := some "all" },
      .flag "all" none "Reindex every source",
      .option "note" (some 'n') "NOTE" "Free-text note stored with the task",
      .option "trace-id" none "TRACE_ID" "Link the task to an existing trace"]

def history : Grammar :=
  leaf "history" "Show grouped task history"
    (listOptions "queued, retrying, running, completed, partial, failed" "actor, scope, and error code")

def task : Grammar :=
  leaf "task" "Show one task with its timeline" [.argument "task-id" "TASK_ID" (some "Task ID") .uuid]

def auditTrail : Grammar :=
  leaf "export" "Download the audit trail as NDJSON"
    [{ Parameter.option "file" (some 'f') "FILE" "Write to a file instead of stdout" with reading := .file }]

def queue : Grammar :=
  ⟨"queue", "Retry queue operations", none, [],
    [leaf "list" "List retry queue entries"
        (listOptions "queued, running, failed, completed" "scope, last error, and note"),
      leaf "show" "Show one entry with its retry state" [queueId],
      leaf "retry" "Retry an entry now"
        [queueId, .option "note" (some 'n') "NOTE" "Note stored on the retry task",
          .flag "force" (some 'f')
            "Retry even when cooling down or exhausted (an exhausted entry switches to manual)"],
      leaf "remove" "Dismiss an entry; task history is kept" [queueId],
      leaf "mode" "Switch an entry between automatic and manual retries"
        [queueId, .argument "mode" "MODE" none (.choice (RetryMode.every.map fun m => (m.name, none)))]]⟩

def health : Grammar :=
  leaf "health" "Check system health" [.flag "detailed" (some 'd') "Include task and queue counters"]

def settings : Grammar :=
  ⟨"config", "Configuration management", none, [],
    [leaf "set" "Set a configuration value"
        [.argument "key" "KEY" (some "Configuration key (api-url, actor)") .text,
          .argument "value" "VALUE" (some "Value to set") .text],
      leaf "get" "Get a configuration value" [.argument "key" "KEY" (some "Configuration key") .text],
      leaf "show" "Show all configuration" [],
      leaf "reset" "Reset configuration to defaults" [.flag "force" (some 'f') "Skip confirmation"]]⟩

/-- The command line of an operator. -/
def operator : Grammar :=
  ⟨program, "Reindex Job Engine CLI",
    some "Submit reindex tasks, inspect history, and operate the retry queue.", globalOptions,
    [submit, history, task, auditTrail, queue, health, settings]⟩

end Grammar

def idOf? (levels : List Level) (id : String) : Option Uuid := (valueOf? levels id).bind Uuid.ofText?

def listingOf (levels : List Level) : Listing := ⟨valuesOf levels "status", valueOf? levels "query"⟩

/-- The command that the findings name. -/
def Command.ofLevels? (levels : List Level) : Option Command :=
  match (levels.drop 1).map (·.name) with
  | ["submit"] =>
    let selection := if isGiven levels "all" then .every else .sources (valuesOf levels "sources")
    some (.submit selection (valueOf? levels "note") (valueOf? levels "trace-id"))
  | ["history"] => some (.history (listingOf levels))
  | ["task"] => (idOf? levels "task-id").map .task
  | ["export"] => some (.auditTrail (valueOf? levels "file"))
  | ["queue", "list"] => some (.queueList (listingOf levels))
  | ["queue", "show"] => (idOf? levels "queue-id").map .queueShow
  | ["queue", "retry"] =>
    (idOf? levels "queue-id").map fun id => .queueRetry id (valueOf? levels "note") (isGiven levels "force")
  | ["queue", "remove"] => (idOf? levels "queue-id").map .queueRemove
  | ["queue", "mode"] => do
    let id ← idOf? levels "queue-id"
    let mode ← valueOf? levels "mode"
    (RetryMode.every.find? (·.name = mode)).map (.queueMode id)
  | ["health"] => some (.health (isGiven levels "detailed"))
  | ["config", "set"] => some (.setSetting ((valueOf? levels "key").getD "") ((valueOf? levels "value").getD ""))
  | ["config", "get"] => some (.getSetting ((valueOf? levels "key").getD ""))
  | ["config", "show"] => some .showSettings
  | ["config", "reset"] => some (.resetSettings (isGiven levels "force"))
  | _ => none

/-- The invocation that the findings describe. -/
def Invocation.ofLevels? (levels : List Level) : Option Invocation :=
  (Command.ofLevels? levels).map fun command =>
    { command
      format := ((valueOf? levels "output").bind fun name => Format.every.find? (·.name = name)).getD .table
      apiUrl := valueOf? levels "api-url"
      actor := valueOf? levels "actor"
      noColor := isGiven levels "no-color" }

end Reindexing.Cli
