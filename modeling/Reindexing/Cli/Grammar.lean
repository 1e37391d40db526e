import Reindexing.Uuid

/-!
# Grammars of command lines

A program takes parameters, and may have commands that take parameters of their
own. A parameter is a flag, an option with a value, or an argument without a
name. Parameters of the program itself may be given after its commands too.
-/
namespace Reindexing.Cli

/-- How the value of a parameter is read. -/
inductive Reading where
  | text
  /-- The name of a file, which is not empty. -/
  | file
  | uuid
  /-- One of some names, each with what it means. -/
  | choice (names : List (String × Option String))
  deriving DecidableEq, Repr

/-- What is wrong with a value, if anything. -/
def Reading.fault? (r : Reading) (value : String) : Option (Option String) :=
  match r with
  | .text => none
  | .file => if value = "" then some none else none
  | .uuid => if (Uuid.ofText? value).isSome then none else some (some (Uuid.faultOf value).message)
  | .choice names => if names.any (·.1 = value) then none else some none

structure Parameter where
  id : String
  short : Option Char
  long : Option String
  /-- The name of its value in a summary; a flag has none. -/
  value : Option String
  help : Option String
  reading : Reading
  repeats : Bool
  required : Bool
  /-- A flag that may stand in its place, but not beside it. -/
  insteadOf : Option String
  /-- The variable of the environment that holds its value. -/
  envName : Option String
  default : Option String
  deriving DecidableEq, Repr

namespace Parameter

/-- A flag. -/
def flag (id : String) (short : Option Char) (help : String) : Parameter :=
  ⟨id, short, some id, none, some help, .text, false, false, none, none, none⟩

/-- An option whose value is a text. -/
def option (id : String) (short : Option Char) (value help : String) : Parameter :=
  ⟨id, short, some id, some value, some help, .text, false, false, none, none, none⟩

/-- An argument that must be given. -/
def argument (id value : String) (help : Option String) (reading : Reading) : Parameter :=
  ⟨id, none, none, some value, help, reading, false, true, none, none, none⟩

def isPositional (p : Parameter) : Bool := p.short.isNone && p.long.isNone

def takesValue (p : Parameter) : Bool := p.value.isSome

/-- The parameter as summaries and faults show it. -/
def shown (p : Parameter) : String :=
  let name := match p.long, p.short with
    | some long, _ => "--" ++ long
    | none, some c => "-" ++ String.ofList [c]
    | none, none => ""
  match p.value with
  | none => name
  | some value =>
    if p.isPositional then
      (if p.required then "<" ++ value ++ ">" else "[" ++ value ++ "]") ++ if p.repeats then "..." else ""
    else name ++ " <" ++ value ++ ">"

end Parameter

/-- A program or a command. -/
structure Grammar where
  name : String
  about : String
  longAbout : Option String
  parameters : List Parameter
  commands : List Grammar

namespace Grammar

def positionals (g : Grammar) : List Parameter := g.parameters.filter (·.isPositional)

def options (g : Grammar) : List Parameter := g.parameters.filter (!·.isPositional)

def command? (g : Grammar) (name : String) : Option Grammar := g.commands.find? (·.name = name)

/-- The command as part of a program: it takes the options of the program too. -/
def within (program command : Grammar) : Grammar :=
  { command with parameters := command.parameters ++ program.options }

end Grammar

/-- What is wrong with a command line. -/
inductive UsageFault where
  | unexpected (argument : String)
  | unknownCommand (name : String)
  | missingCommand (path : String)
  | missingArguments
  | missingValue (parameter : String)
  | conflict (first second : String)
  | repeated (parameter : String)
  | invalidValue (value parameter : String) (reason : Option String)
  | needlessValue (value parameter : String)
  deriving DecidableEq, Repr

def UsageFault.message : UsageFault → String
  | .unexpected argument => "unexpected argument '" ++ argument ++ "' found"
  | .unknownCommand name => "unrecognized subcommand '" ++ name ++ "'"
  | .missingCommand path => "'" ++ path ++ "' requires a subcommand but one was not provided"
  | .missingArguments => "the following required arguments were not provided:"
  | .missingValue parameter => "a value is required for '" ++ parameter ++ "' but none was supplied"
  | .conflict first second => "the argument '" ++ first ++ "' cannot be used with '" ++ second ++ "'"
  | .repeated parameter => "the argument '" ++ parameter ++ "' cannot be used multiple times"
  | .invalidValue value parameter reason =>
    "invalid value '" ++ value ++ "' for '" ++ parameter ++ "'" ++
      match reason with | some reason => ": " ++ reason | none => ""
  | .needlessValue value parameter =>
    "unexpected value '" ++ value ++ "' for '" ++ parameter ++ "' found; no more were expected"

end Reindexing.Cli
