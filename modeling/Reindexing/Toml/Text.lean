import Reindexing.Json.Document

/-!
# TOML texts and keys

Texts stand in double quotes with escapes, or in single quotes as they are; three
quotes make a text of several lines. A key is bare or a text of one line.
-/
namespace Reindexing.Toml

/-- Characters that no text may hold as they are: control characters other than the tab. -/
def isControl (c : Char) : Bool := (c.toNat < 0x20 && c != '\t') || c.toNat = 0x7f

/-- The character of a hexadecimal escape. -/
def readCode? (width : Nat) (cs : List Char) : Option (Char × List Char) :=
  match (cs.take width).mapM Json.hexValue? with
  | none => none
  | some ds =>
    let n := ds.foldl (fun n d => 16 * n + d) 0
    if ds.length = width && (n < 0xd800 || (0xe000 ≤ n && n < 0x110000)) then some (Char.ofNat n, cs.drop width)
    else none

/-- The character of the escape behind a backslash. -/
def readEscape? (cs : List Char) : Option (Char × List Char) :=
  match cs with
  | 'b' :: rest => some ('\x08', rest)
  | 't' :: rest => some ('\t', rest)
  | 'n' :: rest => some ('\n', rest)
  | 'f' :: rest => some ('\x0c', rest)
  | 'r' :: rest => some ('\r', rest)
  | '"' :: rest => some ('"', rest)
  | '\\' :: rest => some ('\\', rest)
  | 'u' :: rest => readCode? 4 rest
  | 'U' :: rest => readCode? 8 rest
  | _ => none

/-- Reads a text of one line in double quotes, behind the opening quote; `done` holds its characters in reverse. -/
def readQuoted? (done : List Char) : Nat → List Char → Option (String × List Char)
  | 0, _ => none
  | fuel + 1, cs =>
    match cs with
    | '"' :: rest => some (String.ofList done.reverse, rest)
    | '\\' :: rest => (readEscape? rest).bind fun (c, rest) => readQuoted? (c :: done) fuel rest
    | c :: rest => if isControl c then none else readQuoted? (c :: done) fuel rest
    | [] => none

/-- Reads a text of one line in single quotes, behind the opening quote. -/
def readLiteral? (cs : List Char) : Option (String × List Char) :=
  match cs.dropWhile (· != '\'') with
  | _ :: rest =>
    let text := cs.takeWhile (· != '\'')
    if text.any isControl then none else some (String.ofList text, rest)
  | [] => none

/-- A line end, if there is one. -/
def lineEnd? (cs : List Char) : Option (List Char) :=
  match cs with
  | '\n' :: rest | '\r' :: '\n' :: rest => some rest
  | _ => none

def isGap (c : Char) : Bool := c = ' ' || c = '\t'

/-- What follows a backslash at the end of a line: blanks and line ends are passed over. -/
def skipLines : Nat → List Char → List Char
  | 0, cs => cs
  | fuel + 1, cs =>
    let rest := cs.dropWhile isGap
    match lineEnd? rest with
    | some rest => skipLines fuel rest
    | none => rest

/-- Reads a text of several lines behind its opening quotes. Of more than three quotes at the end,
up to two belong to the text. -/
def readLines? (quote : Char) (done : List Char) : Nat → List Char → Option (String × List Char)
  | 0, _ => none
  | fuel + 1, cs =>
    match lineEnd? cs with
    | some rest => readLines? quote ('\n' :: done) fuel rest
    | none =>
      match cs with
      | [] => none
      | c :: rest =>
        if c = quote then
          let quotes := (cs.takeWhile (· == quote)).length
          if quotes < 3 then readLines? quote (c :: done) fuel rest
          else if 5 < quotes then none
          else some (String.ofList (List.replicate (quotes - 3) quote ++ done).reverse, cs.drop quotes)
        else if c = '\\' && quote = '"' then
          match lineEnd? (rest.dropWhile isGap) with
          | some after => readLines? quote done fuel (skipLines (after.length + 1) after)
          | none => (readEscape? rest).bind fun (c, rest) => readLines? quote (c :: done) fuel rest
        else if isControl c then none
        else readLines? quote (c :: done) fuel rest

/-- Reads a text of any kind. -/
def readText? (cs : List Char) : Option (String × List Char) :=
  let several (quote : Char) (rest : List Char) : Option (String × List Char) :=
    readLines? quote [] (rest.length + 1) ((lineEnd? rest).getD rest)
  match cs with
  | '"' :: '"' :: '"' :: rest => several '"' rest
  | '\'' :: '\'' :: '\'' :: rest => several '\'' rest
  | '"' :: rest => readQuoted? [] (rest.length + 1) rest
  | '\'' :: rest => readLiteral? rest
  | _ => none

def isBareKeyChar (c : Char) : Bool := c.isAlphanum || c = '-' || c = '_'

def readSimpleKey? (cs : List Char) : Option (String × List Char) :=
  match cs with
  | '"' :: rest => readQuoted? [] (rest.length + 1) rest
  | '\'' :: rest => readLiteral? rest
  | _ =>
    let key := cs.takeWhile isBareKeyChar
    if key.isEmpty then none else some (String.ofList key, cs.dropWhile isBareKeyChar)

/-- Reads the parts of a key between dots. -/
def readKeyParts? : Nat → List Char → Option (List String × List Char)
  | 0, _ => none
  | fuel + 1, cs =>
    match readSimpleKey? cs with
    | none => none
    | some (key, rest) =>
      match rest.dropWhile isGap with
      | '.' :: more => (readKeyParts? fuel (more.dropWhile isGap)).map fun (keys, rest) => (key :: keys, rest)
      | rest => some ([key], rest)

/-- Reads a key of less than eighty parts between dots; blanks may stand around a dot. -/
def readKey? (cs : List Char) : Option (List String × List Char) :=
  (readKeyParts? (cs.length + 1) cs).filter fun (keys, _) => decide (keys.length < 80)

end Reindexing.Toml
