import Reindexing.Json.Value
import Reindexing.Text.Search

/-!
# INI files

A file of keys with values, grouped by headings in brackets. A value ends with its
line or stands in quotes, and a backslash escapes what follows it, a line end
included. A comment starts in the first column. A heading that comes again starts
over what stands under it.
-/
namespace Reindexing.Ini

/-- The keys under a heading, or in front of all headings. -/
structure Section where
  heading : Option String
  entries : List (String × String)
  deriving DecidableEq, Repr

/-- The character that an escape of four hexadecimal digits stands for; a plus may stand for the first digit. -/
def ofCode? (cs : List Char) : Option Char :=
  let digits := match cs with
    | '+' :: rest => rest
    | cs => cs
  let hex? (c : Char) : Option Nat :=
    if '0' ≤ c && c ≤ '9' then some (c.toNat - 48)
    else if 'a' ≤ c.toLower && c.toLower ≤ 'f' then some (c.toLower.toNat - 87) else none
  (digits.mapM hex?).bind fun ds =>
    let n := ds.foldl (fun n d => 16 * n + d) 0
    if 0xd800 ≤ n && n ≤ 0xdfff then none else some (Char.ofNat n)

/-- The character that a letter behind a backslash stands for. -/
def unescape : Char → Char
  | '0' => Char.ofNat 0
  | 'a' => Char.ofNat 7
  | 'b' => Char.ofNat 8
  | 't' => '\t'
  | 'r' => '\r'
  | 'n' => '\n'
  | c => c

/-- The text in front of the first end mark, without escapes, and what starts with the mark. -/
def takeText? (isEnd : Char → Bool) (mayRunOut : Bool) : List Char → Option (List Char × List Char)
  | [] => if mayRunOut then some ([], []) else none
  | '\\' :: 'x' :: a :: b :: c :: d :: rest =>
    match ofCode? [a, b, c, d], takeText? isEnd mayRunOut rest with
    | some e, some (text, rest) => some (e :: text, rest)
    | _, _ => none
  | '\\' :: '\n' :: rest => takeText? isEnd mayRunOut rest
  | '\\' :: c :: rest =>
    if c = 'x' then none
    else (takeText? isEnd mayRunOut rest).map fun (text, rest) => (unescape c :: text, rest)
  | ['\\'] => none
  | c :: rest =>
    if isEnd c then some ([], c :: rest)
    else (takeText? isEnd mayRunOut rest).map fun (text, rest) => (c :: text, rest)

def isLineEnd (c : Char) : Bool := c = '\n' || c = '\r'

/-- The value behind its mark, up to the end of the line. -/
def readValue? (cs : List Char) : Option (List Char × List Char) :=
  let quoted (quote : Char) (rest : List Char) : Option (List Char × List Char) := do
    let (inside, rest) ← takeText? (· = quote) false rest
    let (outside, rest) ← takeText? isLineEnd true (rest.drop 1)
    some (inside ++ outside, rest)
  match cs.dropWhile fun c => Text.isBlank c && !isLineEnd c with
  | '"' :: rest => quoted '"' rest
  | '\'' :: rest => quoted '\'' rest
  | rest => takeText? isLineEnd true rest

/-- What follows blanks, and whether it stands in the first column. -/
def skipBlanks (inFirst : Bool) : List Char → Bool × List Char
  | [] => (inFirst, [])
  | c :: rest => if Text.isBlank c then skipBlanks (c = '\n') rest else (inFirst, c :: rest)

/-- Adds a key to the section that is open. -/
def addEntry (key value : String) : List Section → List Section
  | [] => [⟨none, [(key, value)]⟩]
  | ⟨heading, entries⟩ :: rest => ⟨heading, entries ++ [(key, value)]⟩ :: rest

/-- Reads sections, the last of which comes first in `done`. -/
def readSections? (done : List Section) (inFirst : Bool) : Nat → List Char → Option (List Section)
  | 0, _ => none
  | fuel + 1, cs =>
    let trimmed (text : List Char) : String := String.ofList (Text.trimChars text)
    match skipBlanks inFirst cs with
    | (_, []) => some done.reverse
    | (inFirst, c :: rest) =>
      if c = ';' || c = '#' then
        if inFirst then readSections? done true fuel ((rest.dropWhile (· != '\n')).drop 1) else none
      else if c = '[' then
        (takeText? (· = ']') false rest).bind fun (heading, rest) =>
          readSections? (⟨some (trimmed heading), []⟩ :: done) false fuel (rest.drop 1)
      else do
        let (key, rest) ← takeText? (fun c => c = '=' || c = ':') false (c :: rest)
        let key := trimmed key
        if key.isEmpty then none
        else
          let (value, rest) ← readValue? (rest.drop 1)
          readSections? (addEntry key (trimmed value) done) false fuel rest

def sections? (s : String) : Option (List Section) := readSections? [] true (s.length + 1) s.toList

/-- The keys of a section, of which the last one of a name counts. -/
def Section.fields (s : Section) : List (String × Json) :=
  s.entries.foldl (fun fields (key, value) => Json.putSorted key (.text value) fields) []

/-- The keys of a text by heading. -/
def ofText? (s : String) : Option Json :=
  let add (fields : List (String × Json)) (s : Section) : List (String × Json) :=
    match s.heading with
    | none => s.fields.foldl (fun fields (key, value) => Json.putSorted key value fields) fields
    | some name => Json.putSorted name (.record s.fields) fields
  (sections? s).map fun sections => .record (sections.foldl add [])

end Reindexing.Ini
