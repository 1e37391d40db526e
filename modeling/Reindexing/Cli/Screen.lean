import Reindexing.Cli.Command
import Reindexing.Cli.Session
import Reindexing.Text.Table
import Reindexing.Yaml.Printer

/-!
# The screen of an operator

How results look: marks in front of messages, details under headers, tables, and
documents for other programs. Colours are used only when the environment insists
on them. Warnings and errors go to the other channel, so that results can be
passed on.
-/
namespace Reindexing.Cli

/-- How marks are emphasised. -/
inductive Emphasis where
  | success
  | error
  | info
  | warning
  | key
  | title
  | faint
  deriving DecidableEq, Repr

/-- The parameters of the escape sequence for an emphasis. -/
def Emphasis.code : Emphasis → String
  | .success => "1;32"
  | .error => "1;31"
  | .info => "1;34"
  | .warning => "1;33"
  | .key => "36"
  | .title => "1;4"
  | .faint => "2"

structure Screen where
  format : Format
  isColored : Bool
  deriving DecidableEq, Repr

namespace Screen

/-- Colours need a variable that insists on them, unless they are switched off. -/
def wantsColor (env : String → Option String) (noColor : Bool) : Bool :=
  !noColor && (env "CLICOLOR_FORCE").any (· ≠ "0")

def reset : String := "\x1b[0m"

/-- Emphasises a text, also behind an end of emphasis inside it. -/
def paint (s : Screen) (e : Emphasis) (text : String) : String :=
  if s.isColored then
    let start := "\x1b[" ++ e.code ++ "m"
    start ++ Text.replaceAll text reset (reset ++ start) ++ reset
  else text

def write (text : String) : Session Unit := .print .out text (.done ())

def line (text : String) : Session Unit := write (text ++ "\n")

def success (s : Screen) (message : String) : Session Unit := line (s.paint .success "[OK]" ++ " " ++ message)

def info (s : Screen) (message : String) : Session Unit := line (s.paint .info "[INFO]" ++ " " ++ message)

def error (s : Screen) (message : String) : Session Unit :=
  .print .err (s.paint .error "[ERROR]" ++ " " ++ message ++ "\n") (.done ())

def warning (s : Screen) (message : String) : Session Unit :=
  .print .err (s.paint .warning "[WARN]" ++ " " ++ message ++ "\n") (.done ())

def detail (s : Screen) (key value : String) : Session Unit := line ("  " ++ s.paint .key key ++ ": " ++ value)

/-- Details whose value may be missing are left out. -/
def detailIf (s : Screen) (key : String) : Option String → Session Unit
  | some value => s.detail key value
  | none => .done ()

def header (s : Screen) (title : String) : Session Unit := write ("\n" ++ s.paint .title title ++ "\n\n")

/-- A value as a document for other programs. -/
def document (s : Screen) (value : Json) : Session Unit :=
  match s.format with
  | .yaml => write (Yaml.document value)
  | _ => line value.indented

/-- Rows under a header. -/
def rows (s : Screen) (names : List String) (items : List (List String)) : Session Unit :=
  if items.isEmpty then line (s.paint .faint "No results found.") else line (Text.table names items)

/-- What stands for a missing value. -/
def orDash (value : Option String) : String := value.getD "-"

end Screen

end Reindexing.Cli
