import Reindexing.Cli.Grammar
import Reindexing.Text.Width

/-!
# Help

What a program and its commands do, and what they take. The short form has one
line for each parameter; in the long form the explanation of a parameter stands
below it, and says what each choice means.
-/
namespace Reindexing.Cli

def helpFlag (isLong : Bool) (hasLong : Bool) : Parameter :=
  .flag "help" (some 'h')
    (if !hasLong then "Print help"
     else if isLong then "Print help (see a summary with '-h')"
     else "Print help (see more with '--help')")

def versionFlag : Parameter := .flag "version" (some 'V') "Print version"

/-- What each choice of a parameter means, where that is said. -/
def Parameter.choices (p : Parameter) : List (String × Option String) :=
  match p.reading with
  | .choice names => names
  | _ => []

def Parameter.explainsChoices (p : Parameter) : Bool := p.choices.any fun (_, meaning) => meaning.isSome

/-- Whether the long form says more than the short one. -/
def Grammar.hasLongHelp (g : Grammar) : Bool := g.longAbout.isSome || g.parameters.any (·.explainsChoices)

/-- The remarks behind an explanation. -/
def Parameter.remarks (env : String → Option String) (isLong : Bool) (p : Parameter) : List String :=
  let environment := p.envName.toList.map fun name => "[env: " ++ name ++ "=" ++ (env name).getD "" ++ "]"
  let default := p.default.toList.map fun value => "[default: " ++ value ++ "]"
  let choices := if p.choices.isEmpty || (isLong && p.explainsChoices) then []
    else ["[possible values: " ++ Text.join ", " (p.choices.map (·.1)) ++ "]"]
  environment ++ default ++ choices

def blanks (n : Nat) : String := String.ofList (List.replicate n ' ')

/-- The name of a parameter as its line starts with it. -/
def Parameter.heading (p : Parameter) : String :=
  if p.isPositional then p.shown
  else
    match p.short, p.long with
    | some c, some _ => "-" ++ String.ofList [c] ++ ", " ++ p.shown
    | some _, none => p.shown
    | none, _ => "    " ++ p.shown

/-- The line of a parameter in the short form; names are padded to `columns`. -/
def shortLine (env : String → Option String) (columns : Nat) (p : Parameter) : String :=
  let words := p.help.toList ++ p.remarks env false
  "  " ++ p.heading ++ blanks (columns + 2 - Text.width p.shown) ++ Text.join " " words

def indent : String := "          "

/-- The line of a choice, whose names are padded to `columns`. -/
def choiceLine (columns : Nat) (choice : String × Option String) : String :=
  let (name, meaning) := choice
  "\n" ++ indent ++ "- " ++ name ++
    match meaning with
    | some text => ": " ++ blanks (columns - Text.width name) ++ text
    | none => ""

/-- The lines of a parameter in the long form. -/
def longLines (env : String → Option String) (p : Parameter) : String :=
  let remarks := Text.join ("\n" ++ indent) (p.remarks env true)
  let parts := p.help.toList ++ if remarks = "" then [] else [remarks]
  let meanings := if !p.explainsChoices then ""
    else "\n\n" ++ indent ++ "Possible values:" ++
      String.join (p.choices.map (choiceLine (((p.choices.map fun c => Text.width c.1).max?).getD 0)))
  "  " ++ p.heading ++ "\n" ++ indent ++ Text.join ("\n" ++ indent ++ "\n" ++ indent) parts ++ meanings

/-- The part about some parameters, under its title. -/
def helpPart (env : String → Option String) (isLong : Bool) (title : String) (ps : List Parameter) : List String :=
  if ps.isEmpty then []
  else
    let columns := ((ps.map fun p => Text.width p.shown).max?).getD 0
    let lines := if isLong then Text.join "\n\n" (ps.map (longLines env))
      else Text.join "\n" (ps.map (shortLine env columns))
    [title ++ ":\n" ++ lines]

/-- What options are ordered by when they have the same place: the letter, or else the name. -/
def Parameter.sortKey (p : Parameter) : String :=
  match p.short, p.long with
  | some c, _ => String.ofList [c.toLower] ++ if c.isLower then "0" else "1"
  | none, some long => long
  | none, none => p.id

/-- The options of a program stand among those of its command, place by place. -/
def placed (own ofProgram : List Parameter) : List Parameter :=
  let numbered := own.zipIdx ++ ofProgram.zipIdx
  let before (a b : Parameter × Nat) : Bool :=
    decide (a.2 < b.2) || (a.2 == b.2 && decide (a.1.sortKey ≤ b.1.sortKey))
  (numbered.mergeSort before).map (·.1)

def helpAbout : String := "Print this message or the help of the given subcommand(s)"

def commandsPart (g : Grammar) : List String :=
  if g.commands.isEmpty then []
  else
    let rows := (g.commands.map fun c => (c.name, c.about)) ++
      [("help", helpAbout)]
    let columns := ((rows.map fun row => Text.width row.1).max?).getD 0
    ["Commands:\n" ++ Text.join "\n" (rows.map fun (name, about) =>
      "  " ++ name ++ blanks (columns + 2 - Text.width name) ++ about)]

def usageLine (path : List String) (g : Grammar) : String :=
  let words := path ++ ["[OPTIONS]"] ++ g.positionals.map (·.shown) ++
    if g.commands.isEmpty then [] else ["<COMMAND>"]
  "Usage: " ++ Text.join " " words

/-- The help about a command of a program; `shared` are the options of the program. -/
def helpText (env : String → Option String) (path : List String) (shared : List Parameter) (g : Grammar)
    (isLong : Bool) : String :=
  let isLong := isLong && g.hasLongHelp
  let own := g.options.filter fun p => path.length = 1 || !shared.contains p
  let options := placed own (if path.length = 1 then [] else shared) ++
    [helpFlag isLong g.hasLongHelp, versionFlag]
  let about := if isLong then g.longAbout.getD g.about else g.about
  Text.join "\n\n" ([about, usageLine path g] ++ commandsPart g ++ helpPart env isLong "Arguments" g.positionals ++
    helpPart env isLong "Options" options) ++ "\n"

/-- The help about the command for help. -/
def helpOnHelpText (path : List String) : String :=
  let commands := { Parameter.argument "command" "COMMAND" (some "Print help for the subcommand(s)") .text with
    required := false, repeats := true }
  Text.join "\n\n" ([helpAbout, "Usage: " ++ Text.join " " (path ++ [commands.shown])] ++
    helpPart (fun _ => none) false "Arguments" [commands]) ++ "\n"

end Reindexing.Cli
