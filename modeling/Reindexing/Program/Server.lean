import Reindexing.Program.Host
import Reindexing.Service
import Std.Async.Signal
import Std.Async.Timer
import Std.Sync.Mutex

/-!
# Program of a server

Runs a service: its configuration comes from files and variables, requests come
over the network one after the other, the scheduler is driven by the time that
passes, and what is logged and what goes to the audit trail is written out after
every step. A signal to terminate ends it, and so does a cooldown that cannot be
formed; then nothing more is answered or written.
-/
namespace Reindexing.Server

open Std.Async

/-- A service together with what has been written out of it. -/
structure Held where
  running : Service.Running
  /-- How many lines have been logged. -/
  logged : Nat
  /-- How many characters of the audit file have been written. -/
  written : Nat

/-- The files that a start may read. -/
def startFiles (given : Option String) : List String :=
  let names := Config.defaultFile :: given.toList
  ".env" :: names ++ names.flatMap fun name =>
    Config.Format.extensions.flatMap fun (_, extensions) => extensions.map fun e => name ++ "." ++ e

def readFiles (names : List String) : IO Disk := do
  let files ← names.filterMapM fun name => do
    match ← Host.readFile name with
    | .ok text => pure (some (name, text))
    | .error _ => pure none
  pure (.ofFiles files)

/-- A supply that gives the present time and fresh identifiers. -/
def freshSupply : IO Supply := do
  let time ← Host.now
  let first ← Host.freshNumber
  pure ⟨fun _ => time, fun n => ⟨.ofNat (first + n)⟩, fun n => ⟨.ofNat (first + Word.max32 + n)⟩, fun _ => first, 0, 0, 0, 0⟩

/-- Brings the time and the identifiers of a service up to date. -/
def refresh (r : Service.Running) : IO Service.Running := do
  let supply ← freshSupply
  let time ← Host.now
  let id ← Host.freshNumber
  pure { r with
    server := { r.server with time := time.toText, freshRequestId := (Uuid.ofNat id).toText }
    loop := (r.loop.onEngine fun e => ({ e with supply := supply }, ())).1 }

/-- The text in the audit file of a service, and its name. -/
def auditText (r : Service.Running) : Option (String × String) := do
  let file ← r.loop.engine.audit.file
  let text ← (r.loop.engine.disk.read (Disk.pathOf file.path)).toOption
  pure (file.path, text)

def lineText : Json → String
  | .text line => line
  | line => line.compact

/-- Writes out what is new. -/
def writeOut (h : Held) : IO Held := do
  let lines := h.running.logged
  for line in lines.drop h.logged do
    IO.println (lineText line)
  let written ← match auditText h.running with
    | none => pure h.written
    | some (path, text) => do
      unless text.length = h.written do
        Host.appendFile path (String.ofList (text.toList.drop h.written))
      pure text.length
  pure { h with logged := lines.length, written }

/-- Changes a service, one change at a time. A change that ends the service has no result. -/
def change (held : Std.Mutex Held) (f : Service.Running → Service.Running × α) : IO α :=
  held.atomically do
    let h ← get
    let (running, a) := f (← refresh h.running)
    set { h with running }
    unless running.isUp do throw (IO.userError "overflow when adding durations")
    set (← writeOut { h with running })
    pure a

/-- Answers requests for ever. -/
partial def answerAll (held : Std.Mutex Held) (server : TCP.Socket.Server) : Async Unit := do
  Network.serveOne server fun request => change held (·.respond request)
  answerAll held server

/-- Lets the time of the scheduler pass for ever. -/
partial def passTime (held : Std.Mutex Held) : Async Unit := do
  sleep 100
  change held fun r => ({ r with loop := r.loop.runFor 100 }, ())
  passTime held

/-- The exit code of a program that was aborted. -/
def abortCode : UInt32 := 134

/-- Waits until a service is told to end or has ended itself, and gives the exit code. -/
partial def awaitEnd (held : Std.Mutex Held) (signal : AsyncTask Int) : IO UInt32 := do
  let isUp ← held.atomically do pure (← get).running.isUp
  if !isUp then pure abortCode
  else if ← IO.hasFinished signal then
    change held fun r => (r.stop, ())
    pure 0
  else
    IO.sleep 100
    awaitEnd held signal

/-- Runs a service until it ends. -/
def hold (running : Service.Running) (host : String) (port : UInt16) : IO UInt32 := do
  let held ← Std.Mutex.new (← writeOut ⟨running, 0, 0⟩)
  let server ← Network.listen host port
  let _ ← (answerAll held server).toIO
  let _ ← (passTime held).toIO
  let waiter ← Signal.Waiter.mk .sigterm false
  awaitEnd held (← waiter.wait)

/-- Starts a service, and gives the exit code in the end. -/
def run (words : List String) : IO UInt32 := do
  let environment ← Host.environment
  let disk ← readFiles (startFiles (environment.lookup "REINDEX_CONFIG") ++ words.flatMap fun w => startFiles (some w))
  let supply ← freshSupply
  match Service.start ⟨environment, disk, supply, "", ""⟩ words with
  | .error ending =>
    for line in ending.logged do
      IO.println (lineText line)
    IO.print ending.output
    unless ending.error.isEmpty do IO.eprintln ending.error
    pure ending.code.toUInt32
  | .ok running => hold running running.host running.port.toUInt16

end Reindexing.Server
