import Reindexing.Json.Numeral

/-!
# Reading JSON text

A text is read into a document that keeps its faults in place: where the text
is malformed or ends too early, the document says so at that point, and reading
stops there. A reader that walks the document in order therefore meets faults
and mismatches in the order of the text. Two faults do not stop reading, since
they matter only to a reader that wants the value: a numeral that is too large
and a text with half a surrogate pair.
-/
namespace Reindexing.Json

/-- Why a text is no JSON: a character that cannot stand there, or an early end. -/
inductive Flaw where
  | malformed
  | truncated
  deriving DecidableEq, Repr

/-- How a list or record ends. -/
inductive Closing where
  | closed
  /-- A fault where a comma or the closing bracket should be, or behind a comma. -/
  | faulty (afterComma : Bool) (flaw : Flaw)
  /-- The last item is itself at fault. -/
  | cut
  deriving DecidableEq, Repr

inductive Document where
  | null
  | bool (value : Bool)
  | number (value : Number)
  | hugeNumber
  | text (value : String)
  /-- A text with half a surrogate pair, and the fault behind it that ends the reading. -/
  | unpaired (behind : Option Flaw)
  | list (items : List Document) (closing : Closing)
  | record (entries : List (Document × Document)) (closing : Closing)
  /-- The text ends where a value should start. -/
  | missing
  | brokenText (flaw : Flaw)
  | broken (flaw : Flaw)
  deriving Repr, Inhabited

def isSpace (c : Char) : Bool := c = ' ' || c = '\n' || c = '\t' || c = '\r'

def skipSpace (cs : List Char) : List Char := cs.dropWhile isSpace

/-- Reads the rest of a keyword. -/
def readWord (value : Document) : List Char → List Char → Document × Option (List Char)
  | [], cs => (value, some cs)
  | _ :: _, [] => (.broken .truncated, none)
  | w :: ws, c :: cs => if c = w then readWord value ws cs else (.broken .malformed, none)

/-- At least one digit. -/
def readDigits (cs : List Char) : Except Flaw (List Char × List Char) :=
  match Decimal.spanDigits cs with
  | ([], []) => .error .truncated
  | ([], _ :: _) => .error .malformed
  | (ds, rest) => .ok (ds, rest)

/-- Whether a minus stands in front, and what follows it. -/
def splitMinus : List Char → Bool × List Char
  | '-' :: rest => (true, rest)
  | cs => (false, cs)

/-- The digits behind a point, if there is one. -/
def readFraction : List Char → Except Flaw (Option (List Char) × List Char)
  | '.' :: rest => do
    let (ds, rest) ← readDigits rest
    pure (some ds, rest)
  | cs => pure (none, cs)

/-- Sign and digits of an exponent, if there is one. -/
def readExponent : List Char → Except Flaw (Option (Bool × List Char) × List Char)
  | [] => pure (none, [])
  | c :: rest =>
    if c = 'e' || c = 'E' then do
      let (minus, rest) := match rest with
        | '-' :: rest => (true, rest)
        | '+' :: rest => (false, rest)
        | _ => (false, rest)
      let (ds, rest) ← readDigits rest
      pure (some (minus, ds), rest)
    else pure (none, c :: rest)

def readNumeral (cs : List Char) : Except Flaw (Numeral × List Char) := do
  let (negative, cs) := splitMinus cs
  let (whole, cs) ← readDigits cs
  if whole.head? = some '0' && whole.length ≠ 1 then .error .malformed
  let (fraction, cs) ← readFraction cs
  let (exponent, cs) ← readExponent cs
  pure (⟨negative, whole, fraction, exponent⟩, cs)

def hexValue? (c : Char) : Option Nat :=
  if '0' ≤ c ∧ c ≤ '9' then some (c.toNat - '0'.toNat)
  else if 'a' ≤ c ∧ c ≤ 'f' then some (c.toNat - 'a'.toNat + 10)
  else if 'A' ≤ c ∧ c ≤ 'F' then some (c.toNat - 'A'.toNat + 10)
  else none

/-- Four hexadecimal digits; the text is too short when fewer than four bytes are left. -/
def readUnit (cs : List Char) : Except Flaw (Nat × List Char) :=
  match cs with
  | a :: b :: c :: d :: rest =>
    match hexValue? a, hexValue? b, hexValue? c, hexValue? d with
    | some a, some b, some c, some d => .ok (((a * 16 + b) * 16 + c) * 16 + d, rest)
    | _, _, _, _ => .error .malformed
  | short => if (String.ofList short).utf8ByteSize < 4 then .error .truncated else .error .malformed

def simpleEscape? (c : Char) : Option Char :=
  match c with
  | '"' => some '"'
  | '\\' => some '\\'
  | '/' => some '/'
  | 'b' => some '\x08'
  | 'f' => some '\x0c'
  | 'n' => some '\n'
  | 'r' => some '\r'
  | 't' => some '\t'
  | _ => none

/-- What a text holds so far: its characters in reverse, unless half a surrogate pair was met. -/
abbrev Gathered := Option (List Char)

/-- Reads a text behind its opening quote. -/
def readText (done : Gathered) : Nat → List Char → Document × Option (List Char)
  | 0, _ => (.brokenText .malformed, none)
  | fuel + 1, cs =>
    let stop (flaw : Flaw) : Document × Option (List Char) :=
      match done with
      | some _ => (.brokenText flaw, none)
      | none => (.unpaired (some flaw), none)
    match cs with
    | [] => stop .truncated
    | '"' :: rest =>
      match done with
      | some done => (.text (String.ofList done.reverse), some rest)
      | none => (.unpaired none, some rest)
    | '\\' :: [] => stop .truncated
    | '\\' :: 'u' :: rest =>
      match readUnit rest with
      | .error flaw => stop flaw
      | .ok (unit, rest) =>
        if 0xd800 ≤ unit ∧ unit < 0xdc00 then
          match rest with
          | '\\' :: 'u' :: trail =>
            match readUnit trail with
            | .error flaw => stop flaw
            | .ok (low, behind) =>
              if 0xdc00 ≤ low ∧ low < 0xe000 then
                let c := Char.ofNat (0x10000 + (unit - 0xd800) * 0x400 + (low - 0xdc00))
                readText (done.map (c :: ·)) fuel behind
              else readText none fuel rest
          | _ => if rest = [] ∨ rest = ['\\'] then stop .truncated else readText none fuel rest
        else if 0xdc00 ≤ unit ∧ unit < 0xe000 then readText none fuel rest
        else readText (done.map (Char.ofNat unit :: ·)) fuel rest
    | '\\' :: c :: rest =>
      match simpleEscape? c with
      | some c => readText (done.map (c :: ·)) fuel rest
      | none => stop .malformed
    | c :: rest =>
      if c.toNat < 0x20 then stop .malformed else readText (done.map (c :: ·)) fuel rest

mutual
/-- Reads one value; nothing is left to read behind a fault. -/
def readValue : Nat → List Char → Document × Option (List Char)
  | 0, _ => (.broken .malformed, none)
  | fuel + 1, cs =>
    match skipSpace cs with
    | [] => (.missing, none)
    | '"' :: rest => readText (some []) (rest.length + 1) rest
    | '[' :: rest =>
      match skipSpace rest with
      | [] => (.list [] (.faulty false .truncated), none)
      | ']' :: rest => (.list [] .closed, some rest)
      | rest => readItems fuel [] rest
    | '{' :: rest =>
      match skipSpace rest with
      | [] => (.record [] (.faulty false .truncated), none)
      | '}' :: rest => (.record [] .closed, some rest)
      | '"' :: rest => readEntries fuel [] rest
      | _ => (.record [] (.faulty false .malformed), none)
    | 'n' :: rest => readWord .null ['u', 'l', 'l'] rest
    | 't' :: rest => readWord (.bool true) ['r', 'u', 'e'] rest
    | 'f' :: rest => readWord (.bool false) ['a', 'l', 's', 'e'] rest
    | c :: rest =>
      if c = '-' || Decimal.isDigit c then
        match readNumeral (c :: rest) with
        | .error flaw => (.broken flaw, none)
        | .ok (n, rest) =>
          match n.value? with
          | some v => (.number v, some rest)
          | none => (.hugeNumber, some rest)
      else (.broken .malformed, none)

/-- Reads the items of a list from the start of an item; `done` holds those before it in reverse. -/
def readItems : Nat → List Document → List Char → Document × Option (List Char)
  | 0, _, _ => (.broken .malformed, none)
  | fuel + 1, done, cs =>
    match readValue fuel cs with
    | (item, none) => (.list (item :: done).reverse .cut, none)
    | (item, some rest) =>
      let items := item :: done
      match skipSpace rest with
      | [] => (.list items.reverse (.faulty false .truncated), none)
      | ']' :: rest => (.list items.reverse .closed, some rest)
      | ',' :: rest =>
        match skipSpace rest with
        | [] => (.list items.reverse (.faulty true .truncated), none)
        | ']' :: _ => (.list items.reverse (.faulty true .malformed), none)
        | rest => readItems fuel items rest
      | _ => (.list items.reverse (.faulty false .malformed), none)

/-- Reads the entries of a record from behind the quote that opens a key. -/
def readEntries : Nat → List (Document × Document) → List Char → Document × Option (List Char)
  | 0, _, _ => (.broken .malformed, none)
  | fuel + 1, done, cs =>
    match readText (some []) (cs.length + 1) cs with
    | (key, none) => (.record ((key, .null) :: done).reverse .cut, none)
    | (key, some rest) =>
      match skipSpace rest with
      | [] => (.record ((key, .broken .truncated) :: done).reverse .cut, none)
      | ':' :: rest =>
        match readValue fuel rest with
        | (value, none) => (.record ((key, value) :: done).reverse .cut, none)
        | (value, some rest) =>
          let entries := (key, value) :: done
          match skipSpace rest with
          | [] => (.record entries.reverse (.faulty false .truncated), none)
          | '}' :: rest => (.record entries.reverse .closed, some rest)
          | ',' :: rest =>
            match skipSpace rest with
            | [] => (.record entries.reverse (.faulty true .truncated), none)
            | '"' :: rest => readEntries fuel entries rest
            | _ => (.record entries.reverse (.faulty true .malformed), none)
          | _ => (.record entries.reverse (.faulty false .malformed), none)
      | _ => (.record ((key, .broken .malformed) :: done).reverse .cut, none)
end

/-- The document at the front of a text, and what follows it. -/
def Document.read (text : String) : Document × Option (List Char) :=
  let cs := text.toList
  readValue (2 * cs.length + 2) cs

mutual
/-- The document of a value. -/
def Document.ofJson : Json → Document
  | .null => .null
  | .bool b => .bool b
  | .number n => .number n
  | .text s => .text s
  | .list items => .list (Document.ofItems items) .closed
  | .record fields => .record (Document.ofFields fields) .closed

def Document.ofItems : List Json → List Document
  | [] => []
  | j :: rest => Document.ofJson j :: Document.ofItems rest

def Document.ofFields : List (String × Json) → List (Document × Document)
  | [] => []
  | (k, j) :: rest => (.text k, Document.ofJson j) :: Document.ofFields rest
end

end Reindexing.Json
