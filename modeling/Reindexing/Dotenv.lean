import Reindexing.Text.Alphanumeric
import Reindexing.Text.Search

/-!
# Files of variables

A file may hold variables, one on a line: a name, an equals sign and a value.
Values may be quoted, and may refer to other variables except between single
quotes; a line goes on while a quote is open. Reading stops at the first line that
is malformed or does not end; what stands before it counts.
-/
namespace Reindexing.Dotenv

/-- What a character of a value is part of. -/
inductive Mode where
  | plain
  | single
  | double
  /-- The value is over; only a comment may follow. -/
  | ended
  deriving DecidableEq, Repr

/-- The name of a variable that is being referred to. -/
inductive Reference where
  | none
  | bare (name : List Char)
  | braced (name : List Char)
  deriving DecidableEq, Repr

/-- A value that is being read; what has been read is in reverse. -/
structure Draft where
  mode : Mode
  isEscaped : Bool
  reference : Reference
  read : List Char
  deriving DecidableEq, Repr

/-- Puts the value of a variable in. -/
def expand (lookup : String → String) (d : Draft) (name : List Char) : Draft :=
  { d with reference := .none, read := (lookup (String.ofList name.reverse)).toList.reverse ++ d.read }

/-- Reads a character that is neither escaped nor part of a reference. -/
def plainStep (d : Draft) (c : Char) : Draft :=
  match d.mode with
  | .double =>
    if c = '"' then { d with mode := .plain }
    else if c = '\\' then { d with isEscaped := true }
    else { d with read := c :: d.read }
  | _ =>
    if c = '\'' then { d with mode := .single }
    else if c = '"' then { d with mode := .double }
    else if c = '\\' then { d with isEscaped := true }
    else if c = ' ' || c = '\t' then { d with mode := .ended }
    else { d with read := c :: d.read }

/-- Reads a character behind a backslash. -/
def escapedStep? (d : Draft) (c : Char) : Option Draft :=
  let d := { d with isEscaped := false }
  if "\\'\"$ ".toList.contains c then some { d with read := c :: d.read }
  else if c = 'n' then some { d with read := '\n' :: d.read }
  else none

def step? (lookup : String → String) (d : Draft) (c : Char) : Option Draft :=
  if d.isEscaped then escapedStep? d c
  else if d.mode = .single then
    some (if c = '\'' then { d with mode := .plain } else { d with read := c :: d.read })
  else
    match d.reference with
    | .bare name =>
      if Text.isAlphanumeric c then some { d with reference := .bare (c :: name) }
      else if c = '{' && name.isEmpty then some { d with reference := .braced [] }
      else
        let d := expand lookup d name
        some (if c = '$' then { d with reference := .bare [] } else { d with read := c :: d.read })
    | .braced name =>
      if c = '}' then some (expand lookup d name) else some { d with reference := .braced (c :: name) }
    | .none => if c = '$' then some { d with reference := .bare [] } else some (plainStep d c)

/-- Reads a value to its end. -/
def readValue? (lookup : String → String) (d : Draft) : List Char → Option String
  | [] =>
    let isOpen := d.mode = .single || d.mode = .double || match d.reference with | .braced _ => true | _ => false
    if isOpen then none
    else
      let d := match d.reference with
        | .bare name => expand lookup d name
        | _ => d
      some (String.ofList d.read.reverse)
  | c :: rest =>
    if d.mode = .ended then
      if c = ' ' || c = '\t' then readValue? lookup d rest
      else if c = '#' then some (String.ofList d.read.reverse)
      else none
    else
      match step? lookup d c with
      | some d => readValue? lookup d rest
      | none => none

def isNameChar (c : Char) : Bool := c.isAlphanum || c == '_' || c == '.'

/-- A name and what follows it. -/
def readName? (cs : List Char) : Option (String × List Char) :=
  if cs.head?.any fun c => c.isAlpha || c == '_' then
    some (String.ofList (cs.takeWhile isNameChar), Text.trimStartChars (cs.dropWhile isNameChar))
  else none

/-- The word that may stand in front of a name. -/
def marker : String := "export"

/-- Reads a line with a name and a value. -/
def readLine? (lookup : String → String) (cs : List Char) : Option (String × String) := do
  let (name, rest) ← readName? cs
  let (name, rest) ← if name = marker && rest.head? != some '=' then readName? rest else some (name, rest)
  match rest with
  | '=' :: rest =>
    let rest := Text.trimStartChars rest
    if rest.isEmpty || rest.head? = some '#' then some (name, "")
    else
      let value ← readValue? lookup ⟨.plain, false, .none, []⟩ rest
      some (name, value)
  | _ => none

/-! ## Lines -/

/-- What is open at a place of a line. -/
inductive LineState where
  | complete
  | blank
  | escape
  | single (isEscaped : Bool)
  | double (isEscaped : Bool)
  /-- The rest is a comment. -/
  | comment
  deriving DecidableEq, Repr

/-- What is open behind a character. -/
def LineState.next (c : Char) : LineState → LineState
  | .complete =>
    if Text.isBlank c && c != '\n' && c != '\r' then .blank else opening c
  | .blank => if c = '#' then .comment else opening c
  | .escape => .complete
  | .single isEscaped =>
    if isEscaped then .single false
    else if c = '\\' then .single true else if c = '\'' then .complete else .single false
  | .double isEscaped =>
    if isEscaped then .double false
    else if c = '\\' then .double true else if c = '"' then .complete else .double false
  | .comment => .comment
where
  opening (c : Char) : LineState :=
    if c = '\\' then .escape else if c = '"' then .double false else if c = '\'' then .single false else .complete

/-- The part of a line in front of a comment, and what is open at its end. -/
def scanLine (state : LineState) : List Char → List Char × LineState
  | [] => ([], state)
  | c :: rest =>
    match state.next c with
    | .comment => ([], .comment)
    | state =>
      let (text, state) := scanLine state rest
      (c :: text, state)

/-- The lines of a text with their line ends. -/
def linesOf (line : List Char) : List Char → List (List Char)
  | [] => if line.isEmpty then [] else [line.reverse]
  | '\n' :: rest => ('\n' :: line).reverse :: linesOf [] rest
  | c :: rest => linesOf (c :: line) rest

/-- Takes lines until nothing is open any more; there is no such line if the text ends before. -/
def takeLines? (before : List Char) (state : LineState) : List (List Char) → Option (List Char × List (List Char))
  | [] => none
  | line :: rest =>
    if (Text.trimStartChars (before ++ line)).head? = some '#' then some ([], rest)
    else
      match scanLine state line with
      | (text, .complete) | (text, .comment) => some (before ++ text, rest)
      | (text, state) => takeLines? (before ++ text) state rest

/-- Reads lines, given the variables that are known so far. -/
def readLines (known : List (String × String)) : Nat → List (List Char) → List (String × String)
  | 0, _ => known
  | fuel + 1, lines =>
    match takeLines? [] .complete lines with
    | none => known
    | some (line, rest) =>
      let cs := Text.trimChars line
      if cs.isEmpty || cs.head? = some '#' then readLines known fuel rest
      else
        match readLine? (fun name => (known.lookup name).getD "") cs with
        | none => known
        | some (name, value) =>
          readLines (if (known.lookup name).isSome then known else known ++ [(name, value)]) fuel rest

/-- Adds the variables of a file; those that are known already stay. -/
def extend (known : List (String × String)) (text : String) : List (String × String) :=
  let cs := match text.toList with
    | '\ufeff' :: rest => rest
    | cs => cs
  let lines := linesOf [] cs
  readLines known lines.length lines

end Reindexing.Dotenv
