import Reindexing.Yaml.Text
import Reindexing.Yaml.Token

/-!
# The layout of a YAML text

Finds the tokens of a text. Columns tell where block collections start and end,
and a node turns out to be a key only when the colon behind it is met: a layout
keeps the collections that are open and, for each level of brackets, the place of
the node that may be a key. A text whose layout is wrong has no tokens.
-/
namespace Reindexing.Yaml

/-- A node that is a key if a colon follows it. -/
structure Candidate where
  isOpen : Bool
  /-- Nothing but a key may stand there. -/
  isRequired : Bool
  /-- How many tokens stand in front of it. -/
  place : Nat
  index : Nat
  line : Nat
  column : Nat
  deriving Repr

/-- A column that was given up for a deeper one; `isBlock` says whether a block collection starts at the deeper one. -/
structure Indent where
  column : Int
  isBlock : Bool
  deriving Repr

structure Layout where
  cursor : Cursor
  tokens : Array Token
  /-- The column of the last token, if it is an anchor or a tag. -/
  property : Option Nat
  /-- A node that starts here may be a key. -/
  allowsKey : Bool
  /-- The candidate of each level of brackets, the innermost first. -/
  candidates : List Candidate
  /-- The column of the innermost block collection, or -1 outside of all. -/
  column : Int
  outer : List Indent
  /-- How many brackets are open. -/
  level : Nat
  /-- Where a colon may stand directly in front of a value. -/
  adjacent : Nat
  /-- A mapping in braces was started, as far as single pairs in brackets are concerned. -/
  inBraces : Bool
  /-- A single pair in brackets is open. -/
  inPair : Bool
  deriving Repr

namespace Layout

def noCandidate : Candidate := ⟨false, false, 0, 0, 0, 0⟩

def start (cs : List Char) : Layout :=
  ⟨Cursor.start cs, #[], none, true, [noCandidate], -1, [], 0, 0, false, false⟩

def push (t : Token) (s : Layout) : Layout := { s with tokens := s.tokens.push t, property := none }

/-- Puts a token in front of one that is there. -/
def insertAt (place : Nat) (t : Token) (s : Layout) : Layout :=
  { s with tokens := (s.tokens.extract 0 place).push t ++ s.tokens.extract place s.tokens.size }

def inFlow (s : Layout) : Bool := 0 < s.level

/-- Closes the candidates that are too far back to be keys. -/
def closeStale? (s : Layout) : Option Layout :=
  let isStale (k : Candidate) : Bool :=
    k.isOpen && !s.inFlow && (k.line < s.cursor.line || k.index + 1024 < s.cursor.index)
  if s.candidates.any fun k => isStale k && k.isRequired then none
  else some { s with candidates := s.candidates.map fun k => if isStale k then { k with isOpen := false } else k }

/-- Closes the innermost candidate, which must not be required. -/
def closeCandidate? (s : Layout) : Option Layout :=
  match s.candidates with
  | k :: rest =>
    if k.isOpen && k.isRequired then none else some { s with candidates := { k with isOpen := false } :: rest }
  | [] => some s

/-- Remembers that what starts here may be a key. -/
def saveCandidate (s : Layout) : Layout :=
  if s.allowsKey then
    let isRequired := !s.inFlow && s.column = s.cursor.column && s.outer.head?.any (·.isBlock)
    let c := s.cursor
    { s with candidates := ⟨true, isRequired, s.tokens.size, c.index, c.line, c.column⟩ :: s.candidates.drop 1 }
  else s

/-- Ends the block collections that stand deeper than a column. -/
def unroll (column : Int) : List Indent → Layout → Layout
  | [], s => { s with outer := [] }
  | i :: rest, s =>
    if !s.inFlow && column < s.column then
      unroll column rest { (if i.isBlock then s.push .blockEnd else s) with column := i.column }
    else { s with outer := i :: rest }

def unrollTo (column : Int) (s : Layout) : Layout := unroll column s.outer s

/-- Gives up the columns at which no block collection starts. -/
def unrollPlain : List Indent → Layout → Layout
  | i :: rest, s => if i.isBlock then { s with outer := i :: rest } else unrollPlain rest { s with column := i.column }
  | [], s => { s with outer := [] }

/-- Starts a block collection at a column that is deeper than the innermost one. -/
def roll (column : Int) (place : Nat) (t : Token) (s : Layout) : Layout :=
  if s.inFlow then s
  else
    let s := match s.outer with
      | ⟨outer, false⟩ :: rest => if s.column ≤ column then { s with column := outer, outer := rest } else s
      | _ => s
    if s.column < column then
      { (if place < s.tokens.size then s.insertAt place t else s.push t) with
        column := column, outer := ⟨s.column, true⟩ :: s.outer }
    else s

/-- Asks what follows to stand one column deeper. -/
def rollColumn (s : Layout) : Layout :=
  if !s.inFlow && s.outer.head?.any (·.isBlock) then
    { s with column := s.column + 1, outer := ⟨s.column, false⟩ :: s.outer }
  else s

/-- Ends a single pair in brackets. -/
def closePair (s : Layout) : Layout :=
  if s.inPair then { s.push .closeBrace with inPair := false, inBraces := false } else s

/-- Passes over blanks, comments and line ends; a node on a new line may be a key. -/
def toContent? (s : Layout) : Option Layout :=
  (s.cursor.toContent? s.column (s.cursor.rest.length + 1) false).map fun (c, hasEnded) =>
    { s with cursor := c, allowsKey := s.allowsKey || (hasEnded && !s.inFlow) }

def pastBlanks? (s : Layout) : Option Layout := s.cursor.pastBlanks?.map fun c => { s with cursor := c }

def skip (n : Nat) (s : Layout) : Layout := { s with cursor := s.cursor.skip n }

/-! ## Tokens -/

/-- How deep brackets may stand inside one another. -/
def deepestLevel : Nat := 255

/-- The end of the text. -/
def finish? (s : Layout) : Option Layout :=
  if s.candidates.any fun k => k.isRequired && k.isOpen then none
  else some (s.unrollTo (-1))

/-- What stands between documents ends all block collections. -/
def leaveDocument? (s : Layout) : Option Layout :=
  (s.unrollTo (-1)).closeCandidate?.map fun s => { s with allowsKey := false }

def directive? (s : Layout) : Option Layout := do
  let s ← s.leaveDocument?
  let (t, c) ← readDirective? s.cursor
  some { s.push t with cursor := c }

/-- The line in front of a document, or behind one, on which nothing else may stand. -/
def documentMark? (s : Layout) : Option Layout := do
  let s ← s.leaveDocument?
  if s.cursor.next? = some '-' then some ((s.skip 3).push .documentStart)
  else
    let s ← ((s.skip 3).push .documentEnd).pastBlanks?
    if s.cursor.isAtLineEnd then some s else none

def openBracket? (t : Token) (s : Layout) : Option Layout := do
  let s := s.saveCandidate.rollColumn
  if deepestLevel ≤ s.level then none
  let s := { s with candidates := noCandidate :: s.candidates, level := s.level + 1, allowsKey := true,
                    inBraces := s.inBraces || t == Token.openBrace }
  ((s.skip 1).push t).pastBlanks?

def closeBracket? (t : Token) (s : Layout) : Option Layout := do
  let s ← s.closeCandidate?
  let s := if s.inFlow then { s with candidates := s.candidates.drop 1, level := s.level - 1 } else s
  let s ← ({ s with allowsKey := false }.closePair.skip 1).pastBlanks?
  some ({ s with adjacent := if s.inFlow then s.cursor.index else s.adjacent }.push t)

def comma? (s : Layout) : Option Layout := do
  let s ← s.closeCandidate?
  let s ← ({ s with allowsKey := true }.closePair.skip 1).pastBlanks?
  some (s.push .comma)

/-- The dash in front of an item. -/
def entry? (s : Layout) : Option Layout := do
  if s.inFlow || !s.allowsKey then none
  if s.cursor.column = 0 && s.property = some 0 && 0 ≤ s.column then none
  let s := (s.skip 1).roll s.cursor.column s.tokens.size .blockList
  let hasTab := (s.cursor.rest.takeWhile isBlank).contains '\t'
  let s ← s.pastBlanks?
  if hasTab && s.cursor.next? = some '-' && endsWord (s.cursor.rest.drop 1) then none
  let s := if s.cursor.next?.any fun c => isLineEnd c || isFlowMark c then s.rollColumn else s
  let s ← s.closeCandidate?
  some ({ s with allowsKey := true }.push .entry)

/-- The question mark in front of a key. -/
def key? (s : Layout) : Option Layout := do
  if !s.inFlow && !s.allowsKey then none
  let s := if s.inFlow then { s with inBraces := true } else s.roll s.cursor.column s.tokens.size .blockMap
  let s ← s.closeCandidate?
  let c ← (s.cursor.skip 1).pastSpace? (s.cursor.rest.length + 1) false
  if c.next? = some '\t' then none
  some ({ s with cursor := c, allowsKey := !s.inFlow }.push .key)

/-- Passes over blanks that start with a tab; a name may not follow when all are tabs. -/
def pastTabs? (s : Layout) : Option Layout :=
  let blanks := s.cursor.rest.takeWhile isBlank
  if blanks.head? = some '\t' then
    s.pastBlanks?.filter fun s => blanks.contains ' ' || !s.cursor.next?.any isNameChar
  else some s

/-- The colon in front of a value, which makes the candidate a key. -/
def value? (s : Layout) : Option Layout := do
  let mark := s.cursor
  let s ← { s.skip 1 with inPair := s.inFlow && !s.inBraces }.pastTabs?
  match s.candidates with
  | k :: rest =>
    if k.isOpen then do
      if s.inPair && k.line < mark.line then none
      let s := s.insertAt k.place .key
      let s := if s.inPair then s.insertAt k.place .openBrace else s
      let s := (s.roll k.column k.place .blockMap).rollColumn
      some ({ s with candidates := { k with isOpen := false } :: rest, allowsKey := false }.push .value)
    else do
      let s := if s.inPair then s.push .openBrace else s
      if !s.inFlow && !s.allowsKey then none
      let s := (s.roll mark.column s.tokens.size .blockMap).rollColumn
      some ({ s with allowsKey := !s.inFlow }.push .value)
  | [] => none

/-- An anchor, a tag or an alias. -/
def property? (read : Cursor → Option (Token × Cursor)) (s : Layout) : Option Layout :=
  let s := { s.saveCandidate with allowsKey := false }
  (read s.cursor).map fun (t, c) => { s.push t with cursor := c, property := some s.cursor.column }

def blockText? (s : Layout) : Option Layout := do
  let s := s.saveCandidate
  let s := unrollPlain s.outer s
  let (text, c) ← block? s.column s.cursor
  some ({ s with cursor := c, allowsKey := true }.push (.scalar false text))

def quotedText? (s : Layout) : Option Layout := do
  let s := { s.saveCandidate with allowsKey := false }
  let (text, c) ← quoted? s.inFlow s.column s.cursor
  let s ← { s with cursor := c }.toContent?
  some ({ s with adjacent := s.cursor.index }.push (.scalar false text))

def plainText? (s : Layout) : Option Layout := do
  let s := s.saveCandidate
  let s := unrollPlain s.outer s
  let (text, c) ← plain? s.inFlow (s.column + 1) s.cursor
  some ({ s with cursor := c, allowsKey := c.isFresh }.push (.scalar true text))

/-- Reads the token that starts with the given character. -/
def token? (d : Char) (rest : List Char) (s : Layout) : Option Layout :=
  let stands := endsWord rest
  match d with
  | '[' => s.openBracket? .openBracket
  | '{' => s.openBracket? .openBrace
  | ']' => s.closeBracket? .closeBracket
  | '}' => s.closeBracket? .closeBrace
  | ',' => s.comma?
  | '-' => if stands then s.entry? else s.plainText?
  | '?' => if stands then s.key? else s.plainText?
  | ':' =>
    if stands || (s.inFlow && (rest.head?.any isFlowMark || s.cursor.index = s.adjacent)) then s.value?
    else s.plainText?
  | '*' => s.property? fun c => (readAnchor? c).map fun (name, c) => (.alias name, c)
  | '&' => s.property? fun c => (readAnchor? c).map fun (name, c) => (.anchor name, c)
  | '!' => s.property? fun c => (readTag? s.inFlow c).map fun (tag, c) => (.tag tag, c)
  | '\'' | '"' => s.quotedText?
  | '|' | '>' => if s.inFlow then s.plainText? else s.blockText?
  | '%' | '@' | '\x60' => none
  | _ => s.plainText?

/-- Reads the tokens up to the end of the text. -/
def run? : Nat → Layout → Option Layout
  | 0, _ => none
  | fuel + 1, s => do
    let s ← s.toContent?
    let s ← s.closeStale?
    let s := s.unrollTo s.cursor.column
    match s.cursor.rest with
    | [] => s.finish?
    | d :: rest =>
      let s ←
        if s.cursor.column = 0 && d = '%' then s.directive?
        else if s.cursor.column = 0 && startsDocument s.cursor.rest then s.documentMark?
        else if s.cursor.column < s.column then none
        else s.token? d rest
      run? fuel s

end Layout

/-- The tokens of a text. -/
def Token.ofText? (s : String) : Option (List Token) :=
  let cs := s.toList
  (Layout.run? (cs.length + 1) (Layout.start cs)).map (·.tokens.toList)

end Reindexing.Yaml
