import Reindexing.Cli
import Reindexing.Program.Host

/-!
# Program of an operator

Carries out what a session describes: it prints, asks servers, and reads and
changes files.
-/
namespace Reindexing.Operator

open Cli

def print (channel : Channel) (text : String) : IO Unit := do
  let stream ← match channel with
    | .out => IO.getStdout
    | .err => IO.getStderr
  stream.putStr text
  stream.flush

/-- Carries out a session. -/
def carryOut : Session α → IO α
  | .done a => pure a
  | .print channel text next => do
    print channel text
    carryOut next
  | .ask call next => do carryOut (next (← Network.ask call))
  | .read file next => do carryOut (next (← Host.readFile file))
  | .write file text next => do carryOut (next (← Host.attempt (IO.FS.writeFile file text)))
  | .makeDirectory path next => do carryOut (next (← Host.attempt (IO.FS.createDirAll path)))
  | .remove file next => do carryOut (next (← Host.attempt (IO.FS.removeFile file)))

/-- Runs a command line, and gives its exit code. -/
def run (words : List String) : IO UInt32 := do
  let environment ← Host.environment
  let code ← carryOut (runWords (fun name => environment.lookup name) (← Host.now) words)
  pure code.toUInt32

end Reindexing.Operator
