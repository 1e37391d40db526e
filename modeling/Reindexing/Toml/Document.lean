import Reindexing.Toml.Scalar
import Reindexing.Toml.Text

/-!
# TOML documents

A document is a sequence of lines: keys with values, headers that open a table or
a further table of a list, and comments. A document that breaks a rule anywhere
is no document.
-/
namespace Reindexing.Toml

/-- What follows a comment, if one stands here. -/
def skipComment? (cs : List Char) : Option (List Char) :=
  match cs with
  | '#' :: rest =>
    let isEnd (c : Char) : Bool := c == '\n' || c == '\r'
    if (rest.takeWhile (!isEnd ·)).any isControl then none else some (rest.dropWhile (!isEnd ·))
  | _ => some cs

/-- Passes over blanks, line ends and comments. -/
def skipAll? : Nat → List Char → Option (List Char)
  | 0, _ => none
  | fuel + 1, cs =>
    match skipComment? (cs.dropWhile isGap) with
    | none => none
    | some rest =>
      match lineEnd? rest with
      | some rest => skipAll? fuel rest
      | none => some rest

/-- A key in dotted parts: those before the last, and the last. -/
def splitKey (keys : List String) : List String × String := (keys.dropLast, keys.getLast?.getD "")

/-- How many lists and tables between braces may stand inside one another. -/
def deepestNesting : Nat := 79

mutual
/-- Reads a value, with `room` for as many levels of lists and tables. -/
def readValue? (room : Nat) : Nat → List Char → Option (Value × List Char)
  | 0, _ => none
  | fuel + 1, cs =>
    match cs with
    | '[' :: rest =>
      if room = 0 then none else (skipAll? (rest.length + 1) rest).bind (readItems? (room - 1) fuel [])
    | '{' :: rest =>
      if room = 0 then none
      else match rest.dropWhile isGap with
        | '}' :: rest => some (.table [], rest)
        | rest => readFields? (room - 1) fuel [] rest
    | c :: _ =>
      if c = '"' || c = '\'' then (readText? cs).map fun (s, rest) => (.text s, rest)
      else
        let (word, rest) := takeWord cs
        (readWord? word).map fun v => (v, rest)
    | [] => none

/-- Reads the items of a list. -/
def readItems? (room : Nat) : Nat → List Value → List Char → Option (Value × List Char)
  | 0, _, _ => none
  | fuel + 1, done, cs =>
    match cs with
    | ']' :: rest => some (.list done.reverse, rest)
    | _ =>
      match readValue? room fuel cs with
      | none => none
      | some (value, rest) =>
        match skipAll? (rest.length + 1) rest with
        | some (',' :: rest) => (skipAll? (rest.length + 1) rest).bind (readItems? room fuel (value :: done))
        | some (']' :: rest) => some (.list (value :: done).reverse, rest)
        | _ => none

/-- Reads the fields of a table between braces, which stands on one line. -/
def readFields? (room : Nat) : Nat → Entries → List Char → Option (Value × List Char)
  | 0, _, _ => none
  | fuel + 1, done, cs =>
    match readKey? cs with
    | some (keys, '=' :: rest) =>
      match readValue? room fuel (rest.dropWhile isGap) with
      | none => none
      | some (value, rest) =>
        let (path, key) := splitKey keys
        match done.define path key value with
        | none => none
        | some done =>
          match rest.dropWhile isGap with
          | ',' :: rest => readFields? room fuel done (rest.dropWhile isGap)
          | '}' :: rest => some (.table (entriesToValues done), rest)
          | _ => none
    | _ => none
end

/-- The document so far, and the header under which lines stand. -/
structure Draft where
  entries : Entries
  header : List String

/-- Reads what stands at the start of a line: a header, or a key with a value. -/
def readLine? (d : Draft) (cs : List Char) : Option (Draft × List Char) :=
  let fuel := cs.length + 1
  match cs with
  | '[' :: '[' :: rest => do
    let (keys, rest) ← readKey? (rest.dropWhile isGap)
    let (path, key) := splitKey keys
    let entries ← d.entries.openItem path key
    match rest with
    | ']' :: ']' :: rest => some (⟨entries, keys⟩, rest)
    | _ => none
  | '[' :: rest => do
    let (keys, rest) ← readKey? (rest.dropWhile isGap)
    let (path, key) := splitKey keys
    let entries ← d.entries.openTable path key
    match rest with
    | ']' :: rest => some (⟨entries, keys⟩, rest)
    | _ => none
  | _ => do
    let (keys, rest) ← readKey? cs
    match rest with
    | '=' :: rest =>
      let (value, rest) ← readValue? deepestNesting fuel (rest.dropWhile isGap)
      let (path, key) := splitKey keys
      let entries ← d.entries.within d.header fun inner => inner.define path key value
      some (⟨entries, d.header⟩, rest)
    | _ => none

/-- Reads the lines of a document. -/
def readLines (d : Draft) : Nat → List Char → Option Draft
  | 0, _ => none
  | fuel + 1, cs => do
    let cs ← skipAll? (cs.length + 1) cs
    if cs.isEmpty then some d
    else
      let (d, rest) ← readLine? d cs
      let rest ← skipComment? (rest.dropWhile isGap)
      match lineEnd? rest with
      | some rest => readLines d fuel rest
      | none => if rest.isEmpty then some d else none

/-- The entries of a document. -/
def ofText? (s : String) : Option (List (String × Value)) :=
  let cs := match s.toList with
    | '\ufeff' :: rest => rest
    | cs => cs
  (readLines ⟨[], []⟩ (cs.length + 1) cs).map fun d => entriesToValues d.entries

end Reindexing.Toml
