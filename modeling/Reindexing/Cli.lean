import Reindexing.Cli.Client
import Reindexing.Cli.Report
import Reindexing.Cli.Settings

/-!
# Command line of an operator

What each command asks of the server and what it shows. An actor and an address
come from the command line, the environment or the settings, in this order. A
command that fails says why and ends with code 1; a command line that is not
understood ends with code 2.
-/
namespace Reindexing.Cli

/-- What a command runs in. -/
structure Context where
  client : Client
  actor : String
  screen : Screen
  /-- The home directory, which holds the settings. -/
  home : String
  now : Instant

namespace Context

/-- Shows something; that cannot fail. -/
def shows (session : Session Unit) : Attempt Unit := ExceptT.lift session

/-- Does something to a file. -/
def withFile (deed file : String) (session : Session (Except DiskError α)) : Attempt α := do
  match ← ExceptT.lift session with
  | .ok a => pure a
  | .error fault => throw (.disk deed file fault)

def selectionJson : Selection → Json
  | .every => .text "all"
  | .sources keys => .list (keys.map .text)

/-- A field that is left out when there is no text. -/
def fieldIf (name : String) (value : Option String) : List (String × Json) :=
  value.toList.map fun text => (name, .text text)

def listingQuery (l : Listing) : List (String × String) :=
  (if l.statuses.isEmpty then [] else [("status", Text.join "," l.statuses)]) ++
    l.query.toList.map fun query => ("q", query)

def submit (c : Context) (selection : Selection) (note traceId : Option String) : Attempt Unit := do
  let body := Json.record ([("scope", selectionJson selection), ("actor", .text c.actor)] ++
    fieldIf "note" note ++ fieldIf "trace_id" traceId)
  let answer ← c.client.post submitAnswer "/reindex" body
  match c.screen.format with
  | .table => shows do
    c.screen.success ("Reindex of '" ++ scopeLabel answer.scope ++ "' accepted as task " ++ answer.taskId.toText ++
      " (" ++ answer.status ++ ")")
    c.screen.detailIf "Trace" (answer.trace.bind (·.url))
  | _ => shows (c.screen.document (submitAnswer.write answer))

def history (c : Context) (listing : Listing) : Attempt Unit := do
  let answers ← c.client.get (Wire.list historyAnswer) "/reindex/history" (listingQuery listing)
  match c.screen.format with
  | .table => shows (c.screen.rows historyColumns (answers.map (·.row)))
  | _ => shows (c.screen.document ((Wire.list historyAnswer).write answers))

def task (c : Context) (id : Uuid) : Attempt Unit := do
  let answer ← c.client.get historyAnswer ("/reindex/tasks/" ++ id.toText) []
  match c.screen.format with
  | .table => shows (answer.page c.screen)
  | _ => shows (c.screen.document (historyAnswer.write answer))

/-- The header field that tells how many records the server no longer has. -/
def missingHeader : String := "x-audit-missing-records"

def auditTrail (c : Context) (file : Option String) : Attempt Unit := do
  let (body, missing) ← c.client.getText "/reindex/audit/export" missingHeader
  match missing with
  | some count =>
    shows (c.screen.warning ("Export is missing " ++ count ++ " records evicted from server memory"))
  | none => pure ()
  match file with
  | none => shows (Screen.write body)
  | some file => do
    withFile "write" file (.write file body .done)
    shows (c.screen.success ("Wrote " ++ Decimal.ofNat (Text.lines body).length ++ " audit records to " ++ file))

def entryPath (id : Uuid) : String := "/reindex/queue/" ++ id.toText

def queueList (c : Context) (listing : Listing) : Attempt Unit := do
  let answers ← c.client.get (Wire.list entryAnswer) "/reindex/queue" (listingQuery listing)
  match c.screen.format with
  | .table => shows (c.screen.rows entryColumns (answers.map (·.row c.now)))
  | _ => shows (c.screen.document ((Wire.list entryAnswer).write answers))

def queueShow (c : Context) (id : Uuid) : Attempt Unit := do
  let answer ← c.client.get entryAnswer (entryPath id) []
  shows (answer.page c.screen c.now)

/-- What an operator may do about a refused retry. -/
def retryHint? : Fault → Option String
  | .rejected _ answer =>
    if answer.code = "NOT_ELIGIBLE" then
      some (match answer.retryAfter with
        | some seconds => "Cooling down; eligible again in " ++ Decimal.ofNat seconds ++ "s, or pass --force"
        | none => "Entry is not eligible; pass --force to retry anyway")
    else none
  | _ => none

def queueRetry (c : Context) (id : Uuid) (note : Option String) (force : Bool) : Attempt Unit := do
  let body := Json.record ([("actor", .text c.actor)] ++ fieldIf "note" note ++ [("force", .bool force)])
  let answer ← tryCatch (c.client.post entryAnswer (entryPath id ++ "/retry") body) fun fault => do
    match retryHint? fault with
    | some hint => shows (c.screen.info hint)
    | none => pure ()
    throw fault
  if c.screen.format = .table then
    shows (c.screen.success ("Retry started for '" ++ scopeLabel answer.scope ++ "' (attempt " ++
      Decimal.ofNat answer.attempts ++ ")"))
  shows (answer.page c.screen c.now)

def queueRemove (c : Context) (id : Uuid) : Attempt Unit := do
  c.client.delete (entryPath id) [("actor", c.actor)]
  match c.screen.format with
  | .table => shows (c.screen.success ("Queue entry " ++ id.toText ++ " removed"))
  | _ => shows (c.screen.document (.record [("queue_id", .text id.toText), ("removed", .bool true)]))

def queueMode (c : Context) (id : Uuid) (mode : RetryMode) : Attempt Unit := do
  let body := Json.record [("retry_mode", .text mode.name), ("actor", .text c.actor)]
  let answer ← c.client.post entryAnswer (entryPath id ++ "/mode") body
  shows (answer.page c.screen c.now)

/-- The counters on the page of a server's health. -/
def healthCounters : List (String × String) :=
  [("running_tasks", "Running tasks"), ("queue_depth", "Queue depth"), ("total_tasks", "Total tasks")]

def healthPage (c : Context) (health : Json) (isDetailed : Bool) : Session Unit := do
  let s := c.screen
  let status := (health.field "status").text?.getD "unknown"
  s.header "System Health"
  s.detail "Status" status
  s.detail "API URL" c.client.address
  s.detailIf "Version" (health.field "version").text?
  s.detailIf "Timestamp" (health.field "timestamp").text?
  if isDetailed then do
    s.header "Engine"
    healthCounters.forM fun (name, label) =>
      s.detail label (Screen.orDash ((wordOf? (health.field name)).map Decimal.ofNat))
  if status = "healthy" || status = "ok" then s.success "All systems operational"
  else s.error ("System status: " ++ status)

def health (c : Context) (isDetailed : Bool) : Attempt Unit := do
  let health ← c.client.getRaw "/health"
  match c.screen.format with
  | .table => shows (c.healthPage health isDetailed)
  | _ => shows (c.screen.document health)

/-- The settings at hand; without a file there are none. -/
def readSettings (home : String) : Session (Except Fault Settings) := do
  let file := Settings.fileIn home
  match ← (Session.read file .done : Session (Except DiskError String)) with
  | .error .notFound | .error .notDirectory => pure (.ok .empty)
  | .error fault => pure (.error (.disk "read" file fault))
  | .ok text =>
    match Settings.ofText? text with
    | some settings => pure (.ok settings)
    | none => pure (.error .malformedSettings)

def settingJson (key value : String) : Json := .record [("key", .text key), ("value", .text value)]

def setSetting (c : Context) (key value : String) : Attempt Unit := do
  let settings ← ExceptT.mk (readSettings c.home)
  let directory := Settings.directoryIn c.home
  let file := Settings.fileIn c.home
  withFile "create" directory (.makeDirectory directory .done)
  withFile "write" file (.write file (settings.insert key value).toText .done)
  match c.screen.format with
  | .table => shows (c.screen.success (key ++ " = " ++ value))
  | _ => shows (c.screen.document (settingJson key value))

def getSetting (c : Context) (key : String) : Attempt Unit := do
  let settings ← ExceptT.mk (readSettings c.home)
  match settings.get? key, c.screen.format with
  | none, _ => shows (c.screen.error ("Key '" ++ key ++ "' not found"))
  | some value, .table => shows (Screen.line value)
  | some value, _ => shows (c.screen.document (settingJson key value))

def showSettings (c : Context) : Attempt Unit := do
  let settings ← ExceptT.mk (readSettings c.home)
  if settings.entries.isEmpty then shows (c.screen.info "No configuration values set.")
  else
    match c.screen.format with
    | .table => shows do
      c.screen.header "Configuration"
      settings.entries.forM fun (key, value) => c.screen.detail key value
    | _ => shows (c.screen.document (.record (settings.entries.map fun (key, value) => (key, .text value))))

def resetSettings (c : Context) (force : Bool) : Attempt Unit := do
  if !force then shows (c.screen.info "This will reset all CLI configuration. Use --force to confirm.")
  else do
    let file := Settings.fileIn c.home
    match ← ExceptT.lift (Session.read file .done : Session (Except DiskError String)) with
    | .error .notFound | .error .notDirectory => pure ()
    | _ => withFile "remove" file (.remove file .done)
    shows (c.screen.success "Configuration reset to defaults")

/-- Runs a command. -/
def run (c : Context) : Command → Attempt Unit
  | .submit selection note traceId => c.submit selection note traceId
  | .history listing => c.history listing
  | .task id => c.task id
  | .auditTrail file => c.auditTrail file
  | .queueList listing => c.queueList listing
  | .queueShow id => c.queueShow id
  | .queueRetry id note force => c.queueRetry id note force
  | .queueRemove id => c.queueRemove id
  | .queueMode id mode => c.queueMode id mode
  | .health isDetailed => c.health isDetailed
  | .setSetting key value => c.setSetting key value
  | .getSetting key => c.getSetting key
  | .showSettings => c.showSettings
  | .resetSettings force => c.resetSettings force

end Context

/-- The address that is used when none is given. -/
def defaultAddress : String := "http://localhost:8080"

/-- The actor: the first of those named, unless that is blank. -/
def chooseActor (named : List (Option String)) : String :=
  match named.findSome? id with
  | some actor => if Text.isBlankText actor then Grammar.program else actor
  | none => Grammar.program

/-- Runs an invocation and gives its exit code. -/
def Invocation.run (i : Invocation) (env : String → Option String) (now : Instant) : Session Nat := do
  let home := (env "HOME").getD ""
  let settings := (← Context.readSettings home).toOption
  let setting (key : String) : Option String := settings.bind (·.get? key)
  let context : Context :=
    { client := .ofAddress ((i.apiUrl <|> setting "api-url").getD defaultAddress) (.ofEnvironment env)
      actor := chooseActor [i.actor, setting "actor", env "USER"]
      screen := ⟨i.format, Screen.wantsColor env i.noColor⟩
      home
      now }
  match ← (context.run i.command).run with
  | .ok () => pure 0
  | .error fault => do
    context.screen.error fault.message
    pure 1

/-- The version of the program. -/
def programVersion : String := "0.1.0"

/-- What is said instead of running something, with its exit code. -/
def Halt.session (env : String → Option String) (program : Grammar) : Halt → Session Nat
  | .refused fault => .print .err ("error: " ++ fault.message ++ "\n") (.done 2)
  | .help path g isLong => .print .out (helpText env path program.options g isLong) (.done 0)
  | .helpOnHelp path => .print .out (helpOnHelpText path) (.done 0)
  | .guidance path g => .print .err (helpText env path program.options g false) (.done 2)
  | .version path => .print .out (Text.join "-" path ++ " " ++ programVersion ++ "\n") (.done 0)

/-- Runs a command line and gives its exit code. -/
def runWords (env : String → Option String) (now : Instant) (words : List String) : Session Nat :=
  match Grammar.operator.read env words with
  | .error halt => halt.session env .operator
  | .ok levels =>
    match Invocation.ofLevels? levels with
    | some invocation => invocation.run env now
    | none => .done 2

end Reindexing.Cli
