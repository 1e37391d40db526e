/-!
# Places in a YAML text

A place in a text knows its line and its column, because YAML tells by columns
what stands inside what. From a place one passes over characters, line ends,
blanks and comments; a text ends in front of its first null character.
-/
namespace Reindexing.Yaml

def isBlank (c : Char) : Bool := c = ' ' || c = '\t'

def isLineEnd (c : Char) : Bool := c = '\n' || c = '\r'

/-- Marks that structure what stands between brackets. -/
def isFlowMark (c : Char) : Bool := c = ',' || c = '[' || c = ']' || c = '{' || c = '}'

/-- Whether a text is at its end, at a line end or at a blank. -/
def endsWord : List Char → Bool
  | [] => true
  | c :: _ => isBlank c || isLineEnd c

/-- Whether a text starts with a line that parts documents. -/
def startsDocument (cs : List Char) : Bool :=
  (cs.take 3 = ['-', '-', '-'] || cs.take 3 = ['.', '.', '.']) && endsWord (cs.drop 3)

structure Cursor where
  rest : List Char
  index : Nat
  line : Nat
  column : Nat
  /-- Nothing but blanks stands in front of it on its line. -/
  isFresh : Bool
  deriving Repr

namespace Cursor

def start (cs : List Char) : Cursor := ⟨cs.takeWhile (· != Char.ofNat 0), 0, 0, 0, true⟩

def next? (c : Cursor) : Option Char := c.rest.head?

/-- Whether the text, or its line, ends here. -/
def isAtLineEnd (c : Cursor) : Bool := c.next?.all isLineEnd

/-- Passes over some blanks. -/
def blanks (n : Nat) (c : Cursor) : Cursor :=
  { c with rest := c.rest.drop n, index := c.index + n, column := c.column + n }

/-- Passes over some characters on one line. -/
def skip (n : Nat) (c : Cursor) : Cursor :=
  if n = 0 then c else { c.blanks n with isFresh := false }

/-- Passes over a line end, which may have two characters. -/
def lineEnd (c : Cursor) : Cursor :=
  match c.rest with
  | '\r' :: '\n' :: rest => ⟨rest, c.index + 2, c.line + 1, 0, true⟩
  | _ :: rest => ⟨rest, c.index + 1, c.line + 1, 0, true⟩
  | [] => c

/-- Passes over what is left of a line. -/
def skipLine (c : Cursor) : Cursor := c.skip (c.rest.takeWhile fun d => !isLineEnd d).length

/-- Passes over blanks and a comment, which needs a blank in front of it. -/
def pastBlanks? (c : Cursor) : Option Cursor :=
  let n := (c.rest.takeWhile isBlank).length
  let c := c.blanks n
  if c.next? = some '#' then if n = 0 then none else some c.skipLine else some c

/-- Passes over a tab in an indentation that needs `depth` columns: nothing may follow on its line. -/
def pastTab? (depth : Int) (c : Cursor) : Option Cursor :=
  if c.column < depth then c.pastBlanks?.filter isAtLineEnd else some (c.blanks 1)

/-- Passes over blanks, comments and line ends, and tells whether there was a line end. -/
def toContent? (depth : Int) : Nat → Bool → Cursor → Option (Cursor × Bool)
  | 0, _, _ => none
  | fuel + 1, hasEnded, c =>
    match c.next? with
    | some ' ' => toContent? depth fuel hasEnded (c.blanks 1)
    | some '\t' => (if c.isFresh then c.pastTab? depth else some (c.blanks 1)).bind (toContent? depth fuel hasEnded)
    | some '#' => toContent? depth fuel hasEnded c.skipLine
    | some '\n' | some '\r' => toContent? depth fuel true c.lineEnd
    | _ => some (c, hasEnded)

/-- Passes over blanks but tabs, comments and line ends, which must not be missing. -/
def pastSpace? : Nat → Bool → Cursor → Option Cursor
  | 0, _, _ => none
  | fuel + 1, hasSpace, c =>
    match c.next? with
    | some ' ' => pastSpace? fuel true (c.blanks 1)
    | some '#' => pastSpace? fuel hasSpace c.skipLine
    | some '\n' | some '\r' => pastSpace? fuel true c.lineEnd
    | _ => if hasSpace then some c else none

end Cursor

end Reindexing.Yaml
