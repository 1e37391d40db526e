import Reindexing.Cli.Grammar

/-!
# Reading command lines

A command line is read word by word. An option may stand anywhere, and takes the
next word unless its value is attached to it; after `--` every word is an
argument. A value is checked once it is complete, which is before the next
parameter begins. What is not given comes from the environment, or has a default.
-/
namespace Reindexing.Cli

/-- Where a value comes from. -/
inductive Source where
  | default
  | environment
  | line
  deriving DecidableEq, Repr

/-- Of several values, one of the highest rank counts. -/
def Source.rank : Source → Nat
  | .default => 0
  | .environment => 1
  | .line => 2

/-- A parameter that is present. -/
structure Found where
  id : String
  source : Source
  values : List String
  deriving DecidableEq, Repr

/-- What has been found for a command. -/
structure Level where
  name : String
  found : List Found
  deriving DecidableEq, Repr

/-- Why a command line asks for nothing to be run. -/
inductive Halt where
  | refused (fault : UsageFault)
  /-- Help is asked for. -/
  | help (path : List String) (grammar : Grammar) (isLong : Bool)
  /-- Help about the command for help is asked for. -/
  | helpOnHelp (path : List String)
  /-- Nothing at all is given where a command must be. -/
  | guidance (path : List String) (grammar : Grammar)
  | version (path : List String)

/-- A parameter whose values are not complete yet. -/
structure Pending where
  parameter : Parameter
  values : List String
  deriving DecidableEq, Repr

/-- What has been read for a command. -/
structure Draft where
  found : List Found
  pending : Option Pending
  /-- Every further word is an argument. -/
  afterDashes : Bool
  /-- How many arguments are complete. -/
  position : Nat
  deriving DecidableEq, Repr

namespace Draft

def start : Draft := ⟨[], none, false, 0⟩

def refuse (fault : UsageFault) : Except Halt α := .error (.refused fault)

def has (d : Draft) (id : String) : Bool := d.found.any (·.id = id)

/-- Whether an option waits for its value. -/
def isAwaiting (d : Draft) : Bool := d.pending.any fun p => !p.parameter.isPositional && p.values.isEmpty

/-- Checks the values of a parameter. -/
def checkValues (p : Parameter) : List String → Except Halt Unit
  | [] => .ok ()
  | value :: rest =>
    match p.reading.fault? value with
    | none => checkValues p rest
    | some none =>
      refuse (if value = "" then .missingValue p.shown else .invalidValue value p.shown none)
    | some reason => refuse (.invalidValue value p.shown reason)

def add (found : List Found) (f : Found) : List Found :=
  if found.any (·.id = f.id) then
    found.map fun g => if g.id = f.id then { g with values := g.values ++ f.values } else g
  else found ++ [f]

/-- Takes a parameter with all its values. -/
def take (d : Draft) (p : Parameter) (source : Source) (values : List String) : Except Halt Draft := do
  if p.takesValue && values.isEmpty then refuse (.missingValue p.shown)
  if !p.repeats && d.has p.id then refuse (.repeated p.shown)
  checkValues p values
  pure { d with found := add d.found ⟨p.id, source, values⟩ }

/-- Completes the parameter that is pending. -/
def settle (d : Draft) : Except Halt Draft :=
  match d.pending with
  | none => .ok d
  | some p => { d with pending := none }.take p.parameter .line p.values

/-- Takes an option with its value attached, or a flag. -/
def settleAndTake (d : Draft) (p : Parameter) (values : List String) : Except Halt Draft := do
  (← d.settle).take p .line values

/-- Lets an option wait for its value. -/
def await (d : Draft) (p : Parameter) : Except Halt Draft := do
  pure { (← d.settle) with pending := some ⟨p, []⟩ }

/-- Adds a word to the values that are pending. -/
def push (d : Draft) (p : Parameter) (word : String) : Draft :=
  { d with pending := some ⟨p, (d.pending.map (·.values)).getD [] ++ [word]⟩ }

end Draft

open Draft

/-- A word that starts with two dashes. -/
def longWord (path : List String) (g : Grammar) (d : Draft) (word : List Char) : Except Halt Draft :=
  let name := String.ofList (word.takeWhile (· != '='))
  let value := (word.dropWhile (· != '=')).tail?.map String.ofList
  match name, value with
  | "help", none => do
    let _ ← d.settle
    throw (.help path g true)
  | "version", none => do
    let _ ← d.settle
    throw (.version path)
  | "help", some v | "version", some v => refuse (.needlessValue v ("--" ++ name))
  | _, _ =>
    match g.options.find? (·.long = some name), value with
    | none, _ => refuse (.unexpected ("--" ++ name))
    | some p, some v => if p.takesValue then d.settleAndTake p [v] else refuse (.needlessValue v p.shown)
    | some p, none => if p.takesValue then d.await p else d.settleAndTake p []

/-- The letters behind one dash. -/
def shortWord (path : List String) (g : Grammar) (d : Draft) : List Char → Except Halt Draft
  | [] => .ok d
  | 'h' :: _ => do
    let _ ← d.settle
    throw (.help path g false)
  | 'V' :: _ => do
    let _ ← d.settle
    throw (.version path)
  | c :: rest =>
    match g.options.find? (·.short = some c) with
    | none => refuse (.unexpected ("-" ++ String.ofList [c]))
    | some p =>
      if p.takesValue then
        match rest with
        | [] => d.await p
        | '=' :: value => d.settleAndTake p [String.ofList value]
        | value => d.settleAndTake p [String.ofList value]
      else do shortWord path g (← d.settleAndTake p []) rest

/-- A word that is an argument. -/
def argumentWord (g : Grammar) (d : Draft) (word : String) : Except Halt Draft :=
  match g.positionals[d.position]? with
  | some p => do
    let same := p.repeats && d.pending.any (·.parameter.id = p.id)
    let d ← if same then pure d else d.settle
    pure { d.push p word with position := if p.repeats then d.position else d.position + 1 }
  | none =>
    let isCommand := word = "help" || (g.command? word).isSome
    if g.commands.isEmpty || (d.afterDashes && isCommand) then refuse (.unexpected word)
    else refuse (.unknownCommand word)

/-- A word that names no command. -/
def readWord (path : List String) (g : Grammar) (d : Draft) (word : String) : Except Halt Draft :=
  if d.afterDashes then argumentWord g d word
  else
    match word.toList, d.pending with
    | ['-', '-'], _ => .ok { d with afterDashes := true }
    | '-' :: '-' :: rest, _ => longWord path g d rest
    | '-' :: c :: rest, _ => shortWord path g d (c :: rest)
    | _, some p => if d.isAwaiting then .ok (d.push p.parameter word) else argumentWord g d word
    | _, none => argumentWord g d word

/-- Takes what is not given from the environment. -/
def addEnvironment (env : String → Option String) (d : Draft) : List Parameter → Except Halt Draft
  | [] => .ok d
  | p :: rest =>
    match p.envName.bind env with
    | some value => do addEnvironment env (← if d.has p.id then pure d else d.take p .environment [value]) rest
    | none => addEnvironment env d rest

def addDefaults (d : Draft) (parameters : List Parameter) : Draft :=
  let missing := parameters.filter fun p => !d.has p.id
  { d with found := d.found ++ missing.filterMap fun p => p.default.map fun value => ⟨p.id, .default, [value]⟩ }

/-- A parameter that excludes another one, in either direction. -/
def conflict? (g : Grammar) (found : List Found) : Option UsageFault :=
  let given := found.filter (·.source ≠ .default)
  let pairs := given.flatMap fun a => given.map fun b => (a.id, b.id)
  let excludes (a b : String) : Bool := g.parameters.any fun p => p.id = a && p.insteadOf = some b
  let shown (id : String) : String := ((g.parameters.find? (·.id = id)).map (·.shown)).getD id
  (pairs.find? fun (a, b) => excludes a b || excludes b a).map fun (a, b) => .conflict (shown a) (shown b)

/-- Whether a parameter is neither present nor dispensable. -/
def isMissing (d : Draft) (p : Parameter) : Bool :=
  !d.has p.id && (p.required || p.insteadOf.any fun other => !d.has other)

/-- Completes what has been read for a command. -/
def finish (env : String → Option String) (path : List String) (g : Grammar) (d : Draft) (hasCommand : Bool) :
    Except Halt Draft := do
  let d := addDefaults (← addEnvironment env (← d.settle) g.parameters) g.parameters
  if !g.commands.isEmpty && !hasCommand then
    if d.found.all (·.source = .default) then throw (.guidance path g)
    else refuse (.missingCommand (Text.join " " path))
  match conflict? g d.found with
  | some fault => refuse fault
  | none => if g.parameters.any (isMissing d) then refuse .missingArguments else pure d

/-- The help that names of commands ask for. -/
def helpFor (path : List String) (g : Grammar) : List String → Halt
  | [] => .help path g true
  | name :: rest =>
    match g.command? name, rest with
    | some command, _ => helpFor (path ++ [name]) (g.within command) rest
    | none, next =>
      if name ≠ "help" || g.commands.isEmpty then .refused (.unknownCommand name)
      else match next with
        | [] => .helpOnHelp (path ++ [name])
        | word :: _ => .refused (.unknownCommand word)

/-- Reads the words for a command and for those inside it. -/
def readWords (env : String → Option String) (path : List String) (g : Grammar) (d : Draft) :
    List String → Except Halt (List Level)
  | [] => do pure [⟨g.name, (← finish env path g d false).found⟩]
  | word :: rest =>
    if d.afterDashes || d.isAwaiting then do readWords env path g (← readWord path g d word) rest
    else if word = "help" && !g.commands.isEmpty then throw (helpFor path g rest)
    else
      match g.command? word with
      | none => do readWords env path g (← readWord path g d word) rest
      | some command => do
        let inner ← readWords env (path ++ [word]) (g.within command) .start rest
        pure (⟨g.name, (← finish env path g d true).found⟩ :: inner)

/-- Reads a command line. -/
def Grammar.read (g : Grammar) (env : String → Option String) (words : List String) : Except Halt (List Level) :=
  readWords env [g.name] g .start words

/-- Of two findings, the inner one counts unless the outer one has a higher rank. -/
def inner (outer : Option Found) (level : Level) (id : String) : Option Found :=
  match outer, level.found.find? (·.id = id) with
  | some a, some b => if b.source.rank < a.source.rank then some a else some b
  | none, b => b
  | a, none => a

/-- The values of a parameter. -/
def valuesOf (levels : List Level) (id : String) : List String :=
  ((levels.foldl (fun found level => inner found level id) none).map (·.values)).getD []

/-- The value of a parameter. -/
def valueOf? (levels : List Level) (id : String) : Option String := (valuesOf levels id).head?

/-- Whether a flag is given. -/
def isGiven (levels : List Level) (id : String) : Bool :=
  levels.any fun level => level.found.any fun f => f.id = id && f.source ≠ .default

end Reindexing.Cli
