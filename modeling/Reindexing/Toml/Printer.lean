import Reindexing.Json.Printer

/-!
# Writing TOML

Texts and keys in the form that is easiest to read. A key is bare where that is
possible. A text stands between double quotes when it needs no escape there, else
between single quotes, else between three quotes of either kind; only a text that
fits none of these is written with escapes. A text of several lines starts on a
line of its own.
-/
namespace Reindexing.Toml

/-- Characters that only an escape can show. -/
def needsEscape (c : Char) : Bool := (decide (c.toNat < 0x20) && c != '\t' && c != '\n') || c.toNat == 0x7f

/-- The longest run of a character. -/
def longestRun (c : Char) (cs : List Char) : Nat :=
  (cs.foldl (fun (longest, run) d => if d = c then (max longest (run + 1), run + 1) else (longest, 0)) (0, 0)).1

/-- A character between double quotes, other than a double quote. -/
def escapeChar (keepLines : Bool) (c : Char) : List Char :=
  match c with
  | '\x08' => ['\\', 'b']
  | '\t' => ['\\', 't']
  | '\n' => if keepLines then ['\n'] else ['\\', 'n']
  | '\x0c' => ['\\', 'f']
  | '\r' => ['\\', 'r']
  | '\\' => ['\\', '\\']
  | c => if needsEscape c then '\\' :: 'u' :: (Json.hexDigits 4 c.toNat).map Char.toUpper else [c]

/-- The characters between double quotes, of which up to `quotes` may stand in a row; `run` stand just before. -/
def escapeChars (keepLines : Bool) (quotes : Nat) (run : Nat) : List Char → List Char
  | [] => []
  | '"' :: rest =>
    if run < quotes then '"' :: escapeChars keepLines quotes (run + 1) rest
    else '\\' :: '"' :: escapeChars keepLines quotes 0 rest
  | c :: rest => escapeChar keepLines c ++ escapeChars keepLines quotes 0 rest

/-- A text on one line, between double quotes. -/
def quotedChars (cs : List Char) : List Char := '"' :: (escapeChars false 0 0 cs ++ ['"'])

/-- A text between three quotes of a kind; several lines start on a line of their own. -/
def blockChars (quote : Char) (several : Bool) (cs : List Char) : List Char :=
  [quote, quote, quote] ++ (if several then ['\n'] else []) ++ cs ++ [quote, quote, quote]

def textChars (cs : List Char) : List Char :=
  let several := cs.contains '\n'
  let codes := cs.any needsEscape
  let doubles := longestRun '"' cs
  let singles := longestRun '\'' cs
  let escapes := codes || cs.contains '\\'
  if !escapes && doubles = 0 && !several then quotedChars cs
  else if !codes && singles = 0 && !several then '\'' :: (cs ++ ['\''])
  else if !escapes && doubles < 3 then blockChars '"' several (escapeChars true 2 0 cs)
  else if !codes && singles < 3 then blockChars '\'' several cs
  else if several then blockChars '"' several (escapeChars true 2 0 cs)
  else quotedChars cs

def isBareChar (c : Char) : Bool := c.isAlphanum || c == '-' || c == '_'

def keyChars (cs : List Char) : List Char :=
  let codes := cs.any fun c => needsEscape c || c == '\n'
  if !cs.isEmpty && cs.all isBareChar then cs
  else if !codes && !cs.contains '\\' && !cs.contains '"' then quotedChars cs
  else if !codes && !cs.contains '\'' then '\'' :: (cs ++ ['\''])
  else quotedChars cs

/-- A table of texts under its header. -/
def textTable (header : String) (entries : List (String × String)) : String :=
  let line (entry : String × String) : List Char :=
    keyChars entry.1.toList ++ " = ".toList ++ textChars entry.2.toList ++ ['\n']
  String.ofList ('[' :: (keyChars header.toList ++ [']', '\n'] ++ entries.flatMap line))

end Reindexing.Toml
