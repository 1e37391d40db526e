import Reindexing.Cli.Answer
import Reindexing.Cli.Screen

/-!
# Reports on tasks and entries

What an operator sees of tasks and of queue entries: a row in a list, or a page
with details. An identifier in a row is cut to its first part, and a cooldown is
shown with the seconds that are left.
-/
namespace Reindexing.Cli

/-- The first part of an identifier. -/
def shortId (id : Uuid) : String := String.ofList (id.toText.toList.takeWhile (· != '-'))

def padEnd (columns : Nat) (s : String) : String := s ++ String.ofList (List.replicate (columns - s.length) ' ')

def historyColumns : List String :=
  ["Task", "Scope", "Status", "Actor", "Duration (ms)", "Error", "Updated"]

def HistoryAnswer.row (h : HistoryAnswer) : List String :=
  [shortId h.task.taskId, scopeLabel h.task.scope, h.latest.status, h.task.actor,
    Screen.orDash (h.task.durationMillis.map Decimal.ofInt), Screen.orDash h.task.errorCode, h.latest.timestamp]

def EventAnswer.line (e : EventAnswer) : String :=
  "  #" ++ padEnd 5 (Decimal.ofNat e.sequence) ++ " " ++ padEnd 26 e.timestamp ++ " " ++ padEnd 10 e.status ++
    " " ++ e.note.getD ""

/-- Where the trace of a task can be seen. -/
def TaskAnswer.traceUrl (t : TaskAnswer) : Option String := t.trace.bind (·.url)

/-- The page of a task with its timeline. -/
def HistoryAnswer.page (h : HistoryAnswer) (s : Screen) : Session Unit := do
  let t := h.task
  s.header ("Task " ++ t.taskId.toText)
  s.detail "Scope" (scopeLabel t.scope)
  s.detail "Status" t.status
  s.detail "Actor" t.actor
  s.detail "Created" t.createdAt
  s.detail "Duration (ms)" (Screen.orDash (t.durationMillis.map Decimal.ofInt))
  s.detailIf "Error" (t.errorCode.map fun code => code ++ " " ++ t.errorMessage.getD "")
  s.detailIf "Retry of" (t.retryOf.map Uuid.toText)
  s.detailIf "Evidence" (t.evidence.map Json.compact)
  s.detailIf "Trace" t.traceUrl
  s.header "Timeline"
  Screen.write (String.join (h.events.map fun e => e.line ++ "\n"))

/-- The time of day of an instant. -/
def timeOfDay (t : Instant) : String :=
  String.ofList (((Time.write (fun _ => "") "" t).toList.dropWhile (· != 'T')).drop 1)

/-- The end of a cooldown with the seconds that are left. -/
def cooldownLabel (now : Instant) : Option Instant → String
  | none => "-"
  | some ending =>
    if now < ending then
      timeOfDay ending ++ " (in " ++ Decimal.ofInt (Instant.wholeSeconds (ending - now)) ++ "s)"
    else "elapsed"

def entryColumns : List String := ["Entry", "Scope", "State", "Mode", "Attempts", "Cooldown Until", "Last Error"]

/-- How many attempts were made, and how many may be. -/
def EntryAnswer.attemptsText (e : EntryAnswer) : String :=
  Decimal.ofNat e.attempts ++ "/" ++ Decimal.ofNat e.maxAttempts

def EntryAnswer.row (e : EntryAnswer) (now : Instant) : List String :=
  [shortId e.entryId, scopeLabel e.scope, e.state, e.mode, e.attemptsText, cooldownLabel now e.cooldownUntil,
    Screen.orDash e.lastError]

/-- The page of a queue entry. -/
def EntryAnswer.page (e : EntryAnswer) (s : Screen) (now : Instant) : Session Unit :=
  match s.format with
  | .table => do
    s.header ("Queue entry " ++ e.entryId.toText)
    s.detail "Scope" (scopeLabel e.scope)
    s.detail "Status" e.status
    s.detail "Retry state" e.state
    s.detail "Mode" e.mode
    s.detail "Attempts" e.attemptsText
    s.detail "Remaining" (Screen.orDash (e.attemptsRemaining.map Decimal.ofNat))
    s.detail "Cooldown until" (cooldownLabel now e.cooldownUntil)
    s.detail "Last error" (Screen.orDash e.lastError)
    s.detail "Original task" e.originalTask.toText
    s.detail "Current task" (Screen.orDash (e.currentTask.map Uuid.toText))
    s.detailIf "Note" e.note
  | _ => s.document (entryAnswer.write e)

end Reindexing.Cli
