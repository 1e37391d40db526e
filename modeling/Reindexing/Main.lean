import Reindexing.Program.Operator
import Reindexing.Program.Server

/-!
# Entry

One program with two names: under the name of the service it serves, and under
any other it runs the command line of an operator.
-/
namespace Reindexing

/-- What stands behind the last slash of a path. -/
def lastName (path : String) : String := (Disk.pathOf path).getLast?.getD path

end Reindexing

open Reindexing in
def main (words : List String) : IO UInt32 := do
  if lastName (toString (← IO.appPath)) = Service.program then Server.run words else Operator.run words
