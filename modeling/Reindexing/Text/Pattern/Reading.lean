import Reindexing.Json.Document
import Reindexing.Text.Alphanumeric
import Reindexing.Text.Categories
import Reindexing.Text.Letters
import Reindexing.Text.Pattern

/-!
# Reading patterns

Characters stand for themselves, apart from marks for choices, groups, repetition,
places and sets; a backslash gives a mark its plain meaning and some letters a
special one. Flags in a group change how what follows is read. Patterns do not
count repetitions and do not look around, and whether a place is at the edge of
a word is told by ASCII characters only.
-/
namespace Reindexing.Text.Pattern

/-- How a pattern is read. -/
structure Flags where
  anyCase : Bool
  multiLine : Bool
  dotTakesLineEnd : Bool
  prefersFew : Bool
  /-- Classes and case are those of all letters, and not those of ASCII. -/
  wide : Bool
  anyLineEnd : Bool
  /-- Blanks mean nothing, and a hash starts a comment. -/
  spaced : Bool
  deriving Repr

namespace Flags

def default : Flags := ⟨false, false, false, false, true, false, false⟩

/-- Sets the flag of a letter. -/
def set? (f : Flags) (value : Bool) : Char → Option Flags
  | 'i' => some { f with anyCase := value }
  | 'm' => some { f with multiLine := value }
  | 's' => some { f with dotTakesLineEnd := value }
  | 'U' => some { f with prefersFew := value }
  | 'u' => some { f with wide := value }
  | 'R' => some { f with anyLineEnd := value }
  | 'x' => some { f with spaced := value }
  | _ => none

/-- Reads flags up to a colon or a closing parenthesis, which is left. No flag may be repeated, and those behind
a minus are taken back. -/
def read? (f : Flags) (seen : List Char) : List Char → Option (Flags × List Char)
  | [] => none
  | c :: rest =>
    if c = ':' || c = ')' then if seen.head? = some '-' then none else some (f, c :: rest)
    else if seen.contains c then none
    else if c = '-' then f.read? (c :: seen) rest
    else (f.set? (!seen.contains '-') c).bind fun f => f.read? (c :: seen) rest

end Flags

/-! ## Blanks -/

/-- Passes over blanks and comments where they mean nothing. -/
def skipSpace (f : Flags) (inComment : Bool) : List Char → List Char
  | [] => []
  | c :: rest =>
    if !f.spaced then c :: rest
    else if inComment then skipSpace f (c != '\n') rest
    else if isBlank c then skipSpace f false rest
    else if c = '#' then skipSpace f true rest
    else c :: rest

def space (f : Flags) (cs : List Char) : List Char := skipSpace f false cs

/-- The character behind a minus in a set. -/
def peekSpace (f : Flags) (cs : List Char) : Option Char :=
  if !f.spaced then cs.head?
  else
    match trimStartChars cs with
    | '#' :: rest => (trimStartChars rest).head?
    | rest => rest.head?

/-! ## Single characters and classes -/

inductive Atom where
  | char (c : Char)
  | set (s : CharSet)
  | place (p : Place)
  deriving Repr

def ranges (pairs : List (Char × Char)) : CharSet := .ranges (pairs.map fun (a, b) => (a.toNat, b.toNat))

def asciiDigits : CharSet := ranges [('0', '9')]

def asciiBlanks : CharSet := ranges [('\t', '\r'), (' ', ' ')]

def asciiWord : CharSet := ranges [('0', '9'), ('A', 'Z'), ('_', '_'), ('a', 'z')]

/-- The classes that have names. -/
def namedClasses : List (String × CharSet) :=
  [("alnum", ranges [('0', '9'), ('A', 'Z'), ('a', 'z')]), ("alpha", ranges [('A', 'Z'), ('a', 'z')]),
    ("ascii", .ranges [(0, 0x7f)]), ("blank", ranges [('\t', '\t'), (' ', ' ')]),
    ("cntrl", .ranges [(0, 0x1f), (0x7f, 0x7f)]), ("digit", asciiDigits), ("graph", ranges [('!', '~')]),
    ("lower", ranges [('a', 'z')]), ("print", ranges [(' ', '~')]),
    ("punct", ranges [('!', '/'), (':', '@'), ('[', '\x60'), ('{', '~')]), ("space", asciiBlanks),
    ("upper", ranges [('A', 'Z')]), ("word", asciiWord),
    ("xdigit", ranges [('0', '9'), ('A', 'F'), ('a', 'f')])]

/-- A set where only ASCII may be meant: it must not go beyond ASCII. -/
def confine? (f : Flags) (s : CharSet) : Option CharSet := if f.wide || s.isAscii then some s else none

def withCase (f : Flags) (s : CharSet) : CharSet := if f.anyCase then .anyCase f.wide s else s

/-- The class of a letter behind a backslash; a capital letter is for what is not in it. -/
def letterClass? (f : Flags) (c : Char) : Option CharSet :=
  let class? : Option CharSet := match c.toLower with
    | 'd' => some (if f.wide then .ranges decimalDigitRanges else asciiDigits)
    | 's' => some (if f.wide then .ranges blankRanges else asciiBlanks)
    | 'w' => some (if f.wide then .ranges wordRanges else asciiWord)
    | _ => none
  class?.bind fun s => confine? f (if c.isUpper then .complement s else s)

/-- The characters of a category, which one letter names. -/
def category? (c : Char) : Option CharSet :=
  match c.toLower with
  | 'l' => some (.ranges categoryLetter)
  | 'm' => some (.ranges categoryMark)
  | 'n' => some (.ranges categoryNumber)
  | 'p' => some (.ranges categoryPunctuation)
  | 's' => some (.ranges categorySymbol)
  | 'z' => some (.ranges categorySeparator)
  | 'c' => some (.complement (.ranges (categoryLetter ++ categoryMark ++ categoryNumber ++ categoryPunctuation ++
      categorySymbol ++ categorySeparator)))
  | _ => none

/-- Reads hexadecimal digits, perhaps with blanks between them. -/
def readHex? (f : Flags) (value : Nat) : Nat → List Char → Option (Nat × List Char)
  | 0, cs => some (value, cs)
  | n + 1, cs =>
    match cs with
    | c :: rest => (Json.hexValue? c).bind fun d => readHex? f (16 * value + d) n (space f rest)
    | [] => none

def codeChar? (n : Nat) : Option Char := if n.isValidChar then some (Char.ofNat n) else none

def specialChars : List (Char × Nat) :=
  [('a', 0x07), ('f', 0x0c), ('t', 0x09), ('n', 0x0a), ('r', 0x0d), ('v', 0x0b)]

/-- A place at the edge of a word, which only ASCII characters can tell. -/
def wordPlace? (f : Flags) (p : Place) : Option Atom := if f.wide then none else some (.place p)

/-- Reads what stands behind a backslash. -/
def readEscape? (f : Flags) : List Char → Option (Atom × List Char)
  | [] => none
  | c :: rest =>
    let code (width : Nat) : Option (Atom × List Char) :=
      (readHex? f 0 width (space f rest)).bind fun (n, rest) => do
        if !f.wide && width = 2 && 0x80 ≤ n then none
        some (.char (← codeChar? n), rest)
    match c with
    | 'x' => code 2
    | 'u' => code 4
    | 'U' => code 8
    | 'p' | 'P' =>
      match space f rest with
      | name :: rest => do
        if !f.wide then none
        let s := withCase f (← category? name)
        some (.set (if c = 'P' then .complement s else s), space f rest)
      | [] => none
    | 'A' => some (.place .textStart, rest)
    | 'z' => some (.place .textEnd, rest)
    | 'b' => (wordPlace? f .wordEdge).map (·, rest)
    | 'B' => (wordPlace? f .noWordEdge).map (·, rest)
    | '<' => (wordPlace? f .wordStart).map (·, rest)
    | '>' => (wordPlace? f .wordEnd).map (·, rest)
    | _ =>
      match letterClass? f c, specialChars.lookup c with
      | some s, _ => some (.set s, rest)
      | none, some n => some (.char (Char.ofNat n), rest)
      | none, none => if c.isAlphanum || 0x80 ≤ c.toNat then none else some (.char c, rest)

/-! ## Sets in brackets -/

inductive SetOperation where
  | inter
  | minus
  | differ
  deriving DecidableEq, Repr

/-- Joins a set with the one in front of an operation. -/
def joinSets (f : Flags) (left : Option (SetOperation × CharSet)) (s : CharSet) : CharSet :=
  match left with
  | none => s
  | some (.inter, l) => .inter (withCase f l) (withCase f s)
  | some (.minus, l) => .minus (withCase f l) (withCase f s)
  | some (.differ, l) => .differ (withCase f l) (withCase f s)

/-- A class with a name between colons, behind its opening bracket. -/
def readNamedClass? (cs : List Char) : Option (CharSet × List Char) :=
  match cs with
  | ':' :: rest =>
    let (negated, rest) := match rest with
      | '^' :: rest => (true, rest)
      | rest => (false, rest)
    let name := rest.takeWhile (· != ':')
    match namedClasses.lookup (String.ofList name), rest.drop name.length with
    | some s, ':' :: ']' :: rest => some (if negated then .complement s else s, rest)
    | _, _ => none
  | _ => none

/-- Reads a character or an escape. -/
def readSetAtom? (f : Flags) : List Char → Option (Atom × List Char)
  | '\\' :: rest => readEscape? f rest
  | c :: rest => some (.char c, rest)
  | [] => none

/-- A character of a set. -/
def charOf? (f : Flags) : Atom → Option Char
  | .char c => if f.wide || c.toNat < 0x80 then some c else none
  | _ => none

/-- Reads a character, a range of characters, or a class. -/
def readRange? (f : Flags) (cs : List Char) : Option (CharSet × List Char) := do
  let (first, rest) ← readSetAtom? f cs
  match space f rest with
  | '-' :: rest' =>
    if peekSpace f rest' = some ']' || peekSpace f rest' = some '-' then single first ('-' :: rest')
    else do
      let (last, rest) ← readSetAtom? f (space f rest')
      let a ← charOf? f first
      let b ← charOf? f last
      if b < a then none else some (.ranges [(a.toNat, b.toNat)], rest)
  | rest => single first rest
where
  single (a : Atom) (rest : List Char) : Option (CharSet × List Char) :=
    match a with
    | .set s => some (s, rest)
    | a => (charOf? f a).map fun c => (CharSet.single c, rest)

/-- Minus signs at the start of a set stand for themselves. -/
def readMinuses (f : Flags) : List Char → Bool × List Char
  | '-' :: rest => (true, space f (rest.dropWhile fun c => c = '-' || (f.spaced && isBlank c)))
  | rest => (false, rest)

mutual
/-- Reads a set behind its opening bracket. -/
def readSet? (f : Flags) : Nat → List Char → Option (CharSet × List Char)
  | 0, _ => none
  | fuel + 1, cs => do
    let (negated, cs) := match space f cs with
      | '^' :: rest => (true, space f rest)
      | rest => (false, rest)
    let (hasMinus, cs) := readMinuses f cs
    let start := if hasMinus then CharSet.single '-' else .empty
    let (start, cs) := match cs with
      | ']' :: rest => if hasMinus then (start, cs) else (CharSet.single ']', rest)
      | cs => (start, cs)
    let (s, rest) ← readSetItems? f none start fuel cs
    let s := withCase f s
    (confine? f (if negated then .complement s else s)).map (·, rest)

/-- Reads what is left of a set. -/
def readSetItems? (f : Flags) (left : Option (SetOperation × CharSet)) (s : CharSet) :
    Nat → List Char → Option (CharSet × List Char)
  | 0, _ => none
  | fuel + 1, cs =>
    let operation (op : SetOperation) (rest : List Char) : Option (CharSet × List Char) :=
      readSetItems? f (some (op, joinSets f left s)) .empty fuel rest
    match space f cs with
    | [] => none
    | ']' :: rest => some (joinSets f left s, rest)
    | '&' :: '&' :: rest => operation .inter rest
    | '-' :: '-' :: rest => operation .minus rest
    | '~' :: '~' :: rest => operation .differ rest
    | '[' :: rest => do
      let (t, rest) ← match readNamedClass? rest with
        | some (t, rest) => (confine? f t).map (·, rest)
        | none => readSet? f fuel rest
      readSetItems? f left (.union s t) fuel rest
    | cs => do
      let (t, rest) ← readRange? f cs
      readSetItems? f left (.union s t) fuel rest
end

/-! ## Patterns -/

/-- What is left to read, how, and the names that groups have so far. -/
structure Source where
  rest : List Char
  flags : Flags
  names : List String

def isAlphabetic (c : Char) : Bool :=
  isAlphanumeric c && (!inRanges categoryNumber c || inRanges letterRanges c)

/-- The name of a group, behind its opening bracket. No two groups have the same name. -/
def readName? (names : List String) (cs : List Char) : Option (String × List Char) :=
  let name := cs.takeWhile (· != '>')
  let isName := match name with
    | c :: rest => (c = '_' || isAlphabetic c) &&
        rest.all fun c => c = '_' || c = '.' || c = '[' || c = ']' || isAlphanumeric c
    | [] => false
  let s := String.ofList name
  if isName && !names.contains s then (cs[name.length]?).map fun _ => (s, cs.drop (name.length + 1)) else none

/-- The pattern of a character, a class or a place. -/
def ofAtom? (f : Flags) : Atom → Option Pattern
  | .char c => some (.char (if f.wide || c.toNat < 0x80 then withCase f (.single c) else .single c))
  | .set s => some (.char s)
  | .place p => some (.place p)

/-- The pattern of a single mark. -/
def ofMark? (f : Flags) : Char → Option Pattern
  | '.' =>
    if !f.wide then none
    else some (.char (.complement (if f.dotTakesLineEnd then .empty
      else if f.anyLineEnd then ranges [('\n', '\n'), ('\r', '\r')] else .single '\n')))
  | '^' => some (.place (if !f.multiLine then .textStart else if f.anyLineEnd then .anyLineStart else .lineStart))
  | '$' => some (.place (if !f.multiLine then .textEnd else if f.anyLineEnd then .anyLineEnd else .lineEnd))
  | c => ofAtom? f (.char c)

/-- The repetition of a pattern that a mark asks for. -/
def repeated (mark : Char) (greedy : Bool) (p : Pattern) : Pattern :=
  match mark with
  | '?' => .optional greedy p
  | '*' => .optional greedy (.many greedy p)
  | _ => .many greedy p

/-- Joins patterns that follow one another; where only flags were set there is none. -/
def ofSequence (items : List (Option Pattern)) : Pattern :=
  match items.filterMap id with
  | [] => .empty
  | p :: rest => rest.foldl .seq p

mutual
/-- Reads choices up to a closing parenthesis or the end. -/
def readChoices? : Nat → Source → Option (Pattern × Source)
  | 0, _ => none
  | fuel + 1, s => do
    let (p, s) ← readSequence? [] fuel s
    match s.rest with
    | '|' :: rest =>
      let (q, s) ← readChoices? fuel { s with rest }
      some (.either p q, s)
    | _ => some (p, s)

/-- Reads what follows one another; `done` holds it in reverse. -/
def readSequence? (done : List (Option Pattern)) : Nat → Source → Option (Pattern × Source)
  | 0, _ => none
  | fuel + 1, s =>
    let further (p : Pattern) (rest : List Char) : Option (Pattern × Source) :=
      readSequence? (some p :: done) fuel { s with rest }
    match space s.flags s.rest with
    | [] => some (ofSequence done.reverse, { s with rest := [] })
    | c :: rest =>
      if c = '|' || c = ')' then some (ofSequence done.reverse, { s with rest := c :: rest })
      else if c = '(' then do
        let (p, s) ← readGroup? fuel { s with rest := space s.flags rest }
        readSequence? (p :: done) fuel s
      else if c = '[' then (readSet? s.flags (3 * rest.length + 3) rest).bind fun (set, rest) => further (.char set) rest
      else if c = '?' || c = '*' || c = '+' then
        match done with
        | some p :: done =>
          let isLazy := rest.head? = some '?'
          let greedy := isLazy == s.flags.prefersFew
          readSequence? (some (repeated c greedy p) :: done) fuel { s with rest := if isLazy then rest.drop 1 else rest }
        | _ => none
      else if c = '{' then none
      else if c = '\\' then (readEscape? s.flags rest).bind fun (a, rest) =>
        (ofAtom? s.flags a).bind fun p => further p rest
      else (ofMark? s.flags c).bind fun p => further p rest

/-- Reads a group behind its opening parenthesis. A group of flags only changes how its surroundings are read on. -/
def readGroup? : Nat → Source → Option (Option Pattern × Source)
  | 0, _ => none
  | fuel + 1, s =>
    let inside (inner : Source) : Option (Option Pattern × Source) := do
      let (p, inner) ← readChoices? fuel inner
      match inner.rest with
      | ')' :: rest => some (some p, { inner with rest, flags := s.flags })
      | _ => none
    let named (rest : List Char) : Option (Option Pattern × Source) := do
      let (name, rest) ← readName? s.names rest
      inside { s with rest, names := name :: s.names }
    match s.rest with
    | '?' :: '=' :: _ | '?' :: '!' :: _ | '?' :: '<' :: '=' :: _ | '?' :: '<' :: '!' :: _ => none
    | '?' :: 'P' :: '<' :: rest | '?' :: '<' :: rest => named rest
    | '?' :: flags => do
      let (f, rest) ← s.flags.read? [] flags
      match rest with
      | ':' :: rest => inside { s with rest, flags := f }
      | _ => if flags.head? = some ')' then none else some (none, { s with rest := rest.drop 1, flags := f })
    | _ => inside s
end

/-- Reads a pattern. -/
def ofText? (text : String) : Option Pattern := do
  let cs := text.toList
  let (p, s) ← readChoices? (3 * cs.length + 3) ⟨cs, Flags.default, []⟩
  if s.rest.isEmpty then some p else none

end Reindexing.Text.Pattern
