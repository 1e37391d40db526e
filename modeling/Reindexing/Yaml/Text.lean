import Reindexing.Json.Document
import Reindexing.Yaml.Cursor

/-!
# YAML texts

Texts stand in quotes, plainly, or in a block of lines behind a bar or an angle.
Where a text goes on in another line, the line end is read as a blank, and every
empty line as a line end; a block behind a bar keeps its lines. The first column
that a line may start in is given by `depth`.
-/
namespace Reindexing.Yaml

def newlines (n : Nat) : List Char := List.replicate n '\n'

/-- What a line end stands for that `n` empty lines follow. -/
def folded (n : Nat) : List Char := if n = 0 then [' '] else newlines n

/-! ## Quotes -/

/-- The characters behind a backslash that stand for one character. -/
def simpleEscapes : List (Char × Nat) :=
  [('0', 0x00), ('a', 0x07), ('b', 0x08), ('t', 0x09), ('\t', 0x09), ('n', 0x0a), ('v', 0x0b), ('f', 0x0c),
    ('r', 0x0d), ('e', 0x1b), (' ', 0x20), ('"', 0x22), ('/', 0x2f), ('\\', 0x5c), ('N', 0x85), ('_', 0xa0),
    ('L', 0x2028), ('P', 0x2029)]

/-- The characters behind a backslash that hexadecimal digits follow, and how many. -/
def codeEscapes : List (Char × Nat) := [('x', 2), ('u', 4), ('U', 8)]

/-- The character of an escape, with the length that the escape is written in. -/
def readEscape? : List Char → Option (Char × Nat)
  | '\\' :: e :: rest =>
    match simpleEscapes.lookup e, codeEscapes.lookup e with
    | some n, _ => some (Char.ofNat n, 2)
    | none, some width =>
      match (rest.take width).mapM Json.hexValue? with
      | some ds =>
        let n := ds.foldl (fun n d => 16 * n + d) 0
        if ds.length = width && n.isValidChar then some (Char.ofNat n, width + 2) else none
      | none => none
    | none, none => none
  | _ => none

/-- Passes over the blanks and line ends behind a line end, and counts the lines that hold nothing. -/
def pastEmptyLines? (onTab : Cursor → Option Cursor) : Nat → Nat → Cursor → Option (Nat × Cursor)
  | 0, _, _ => none
  | fuel + 1, n, c =>
    match c.next? with
    | some ' ' => pastEmptyLines? onTab fuel n (c.blanks 1)
    | some '\t' => (onTab c).bind (pastEmptyLines? onTab fuel n)
    | some '\n' | some '\r' => pastEmptyLines? onTab fuel (if c.isFresh then n + 1 else n) c.lineEnd
    | _ => some (n, c)

/-- Reads blanks, and what stands for a line end with the empty lines behind it. -/
def readGap? (onTab : Cursor → Option Cursor) (c : Cursor) : Option (List Char × Cursor) :=
  let blanks := c.rest.takeWhile isBlank
  let c := c.blanks blanks.length
  if c.next?.any isLineEnd then
    (pastEmptyLines? onTab (c.rest.length + 1) 0 c.lineEnd).map fun (n, c) => (folded n, c)
  else some (blanks, c)

/-- In quotes a line may not start with a tab in front of its first column. -/
def quotedTab? (depth : Int) (c : Cursor) : Option Cursor := if c.column < depth then none else some (c.blanks 1)

/-- Whether a text in quotes may go on here. -/
def goesOn (depth : Int) (c : Cursor) : Bool :=
  !(c.column = 0 && startsDocument c.rest) && !c.rest.isEmpty && depth ≤ c.column

/-- Reads a text behind its opening quote; `done` holds its characters in reverse. -/
def readQuoted? (quote : Char) (depth : Int) (done : List Char) : Nat → Cursor → Option (String × Cursor)
  | 0, _ => none
  | fuel + 1, c =>
    let further (gap : List Char) (c : Cursor) : Option (String × Cursor) :=
      if goesOn depth c then readQuoted? quote depth (gap.reverse ++ done) fuel c else none
    match c.rest with
    | [] => none
    | '\\' :: rest =>
      if quote = '\'' then readQuoted? quote depth ('\\' :: done) fuel (c.skip 1)
      else if rest.head?.any isLineEnd then
        (pastEmptyLines? (quotedTab? depth) (rest.length + 1) 0 (c.skip 1).lineEnd).bind fun (n, c) =>
          if c.next? = some quote && n = 0 && c.column = 0 then
            some (String.ofList done.reverse, c.skip 1)
          else further (newlines n) c
      else (readEscape? c.rest).bind fun (d, n) => readQuoted? quote depth (d :: done) fuel (c.skip n)
    | d :: rest =>
      if d = quote then
        if quote = '\'' && rest.head? = some '\'' then readQuoted? quote depth ('\'' :: done) fuel (c.skip 2)
        else some (String.ofList done.reverse, c.skip 1)
      else if isBlank d || isLineEnd d then
        (readGap? (quotedTab? depth) c).bind fun (gap, c) => further gap c
      else readQuoted? quote depth (d :: done) fuel (c.skip 1)

/-- A text in quotes. What follows it on its line must be able to follow a text. -/
def quoted? (inFlow : Bool) (depth : Int) (c : Cursor) : Option (String × Cursor) :=
  match c.next? with
  | none => none
  | some quote =>
    let first := c.skip 1
    if goesOn depth first then do
      let (text, c') ← readQuoted? quote depth [] (c.rest.length + 1) first
      let c' ← c'.pastBlanks?
      let mayFollow := c'.isAtLineEnd || match c'.next? with
        | some ':' => inFlow || c.line = c'.line
        | some d => inFlow && (d = ',' || d = '}' || d = ']')
        | none => true
      if mayFollow then some (text, c') else none
    else none

/-! ## Plain texts -/

/-- Whether a plain text goes on with the next character. -/
def isPlainChar (inFlow : Bool) : List Char → Bool
  | [] => false
  | ':' :: rest => !endsWord rest && !(inFlow && rest.head?.any isFlowMark)
  | c :: _ => !isBlank c && !isLineEnd c && !(inFlow && isFlowMark c)

/-- How many characters a plain text goes on for without a blank. -/
def plainLength (inFlow : Bool) : List Char → Nat
  | [] => 0
  | c :: rest => if isPlainChar inFlow (c :: rest) then plainLength inFlow rest + 1 else 0

/-- Reads a plain text behind a gap; `done` holds its characters in reverse. -/
def readPlain? (inFlow : Bool) (depth : Int) (done gap : List Char) : Nat → Cursor → Option (String × Cursor)
  | 0, _ => none
  | fuel + 1, c =>
    let text := String.ofList done.reverse
    if (c.column = 0 && startsDocument c.rest) || c.next? = some '#' then some (text, c)
    else if inFlow && c.next? = some '-' && (c.rest.drop 1).head?.any isFlowMark then none
    else
      let n := plainLength inFlow c.rest
      if n = 0 then some (text, c)
      else
        let done := (c.rest.take n).reverse ++ gap.reverse ++ done
        let c := c.skip n
        if c.next?.any fun d => isBlank d || isLineEnd d then
          (readGap? (Cursor.pastTab? depth) c).bind fun (gap, c) =>
            if !inFlow && c.column < depth then some (String.ofList done.reverse, c)
            else readPlain? inFlow depth done gap fuel c
        else some (String.ofList done.reverse, c)

/-- A plain text. -/
def plain? (inFlow : Bool) (depth : Int) (c : Cursor) : Option (String × Cursor) :=
  if inFlow && c.column < depth then none else readPlain? inFlow depth [] [] (c.rest.length + 1) c

/-! ## Blocks -/

/-- What becomes of the line ends at the end of a block: none is kept, one, or all. -/
inductive Ending where
  | none
  | one
  | all
  deriving DecidableEq, Repr

structure BlockStyle where
  keepsLines : Bool
  ending : Ending
  /-- How far the lines are indented, if that is not left to the first line. -/
  step : Option Nat
  deriving DecidableEq, Repr

/-- A digit that is not zero, if there is a digit. -/
def readStep? (c : Cursor) : Option (Option Nat × Cursor) :=
  match c.next? with
  | some d =>
    if !d.isDigit then some (none, c)
    else if d = '0' then none else some (some (d.toNat - '0'.toNat), c.skip 1)
  | none => some (none, c)

def readEnding (c : Cursor) : Ending × Cursor :=
  match c.next? with
  | some '+' => (.all, c.skip 1)
  | some '-' => (.none, c.skip 1)
  | _ => (.one, c)

/-- The style of a block: a bar or an angle, with an ending and a step in any order. -/
def readStyle? (c : Cursor) : Option (BlockStyle × Cursor) := do
  let keepsLines := c.next? == some '|'
  let (ending, c) := readEnding (c.skip 1)
  let (step, c) ← readStep? c
  let (ending, c) := if ending = .one && step.isSome then readEnding c else (ending, c)
  some (⟨keepsLines, ending, step⟩, c)

/-- Passes over blanks up to a column, and over empty lines, which are counted. -/
def toColumn (column : Nat) : Nat → Nat → Cursor → Nat × Cursor
  | 0, n, c => (n, c)
  | fuel + 1, n, c =>
    let c := c.blanks (min (c.rest.takeWhile (· = ' ')).length (column - c.column))
    if c.next?.any isLineEnd then toColumn column fuel (n + 1) c.lineEnd else (n, c)

/-- Passes over empty lines and the blanks of the first line, and tells the largest column reached. -/
def toFirstLine : Nat → Nat → Nat → Cursor → Nat × Nat × Cursor
  | 0, column, n, c => (column, n, c)
  | fuel + 1, column, n, c =>
    let c := c.blanks (c.rest.takeWhile (· = ' ')).length
    let column := max column c.column
    if c.next?.any isLineEnd then toFirstLine fuel column (n + 1) c.lineEnd else (column, n, c)

/-- What is read of a block. -/
structure BlockText where
  /-- The characters, in reverse. -/
  done : List Char
  /-- The last line ended. -/
  hasEnded : Bool
  /-- Empty lines behind the last line. -/
  empty : Nat
  /-- The last line started with a blank. -/
  isIndented : Bool

/-- What stands between the lines of a block. -/
def BlockText.joint (style : BlockStyle) (isIndented : Bool) (b : BlockText) : List Char :=
  if !style.keepsLines && b.hasEnded && !b.isIndented && !isIndented then folded b.empty
  else newlines ((if b.hasEnded then 1 else 0) + b.empty)

/-- Reads the lines of a block. -/
def readLines (style : BlockStyle) (column : Nat) : Nat → BlockText → Cursor → BlockText × Cursor
  | 0, b, c => (b, c)
  | fuel + 1, b, c =>
    match c.next? with
    | none => (b, c)
    | some d =>
      if c.column != column || (column = 0 && startsDocument c.rest) then (b, c)
      else
        let line := c.rest.takeWhile fun d => !isLineEnd d
        let done := line.reverse ++ (b.joint style (isBlank d)).reverse ++ b.done
        let c := c.skip line.length
        if c.rest.isEmpty then (⟨done, false, 0, isBlank d⟩, c)
        else
          let (n, c) := toColumn column (c.rest.length + 1) 0 c.lineEnd
          readLines style column fuel ⟨done, true, n, isBlank d⟩ c

/-- What ends a block; at the end of a document a line may lack its end. -/
def BlockText.tail (style : BlockStyle) (depth : Int) (c : Cursor) (b : BlockText) : List Char :=
  let last := newlines (if b.hasEnded then 1 else 0) ++
    newlines (if c.rest.isEmpty && max depth 1 ≤ c.column then 1 else 0)
  match style.ending with
  | .none => []
  | .one => last
  | .all => last ++ newlines b.empty

/-- A block without lines at the end of a document. -/
def emptyBlock (ending : Ending) (hasEnded : Bool) (empty : Nat) : List Char :=
  match ending with
  | .none => []
  | .one => newlines (if hasEnded then 1 else 0)
  | .all => newlines (if hasEnded then max empty 1 else 0)

/-- A block; `depth` is the column of what holds it. -/
def block? (depth : Int) (c : Cursor) : Option (String × Cursor) := do
  let (style, c) ← readStyle? c
  let c ← c.pastBlanks?
  if !c.isAtLineEnd then none
  let hasEnded := !c.rest.isEmpty
  let c := c.lineEnd
  if c.next? = some '\t' then none
  let fuel := c.rest.length + 1
  let (column, empty, c) := match style.step with
    | some step =>
      let column := (max depth 0).toNat + step
      let (n, c) := toColumn column fuel 0 c
      (column, n, c)
    | none =>
      let (column, n, c) := toFirstLine fuel 0 0 c
      (max column (depth + 1).toNat, n, c)
  if c.rest.isEmpty then some (String.ofList (emptyBlock style.ending hasEnded empty), c)
  else if c.column < column && depth < c.column then none
  else
    let (b, c) := readLines style column fuel ⟨[], false, empty, false⟩ c
    some (String.ofList (b.done.reverse ++ b.tail style depth c), c)

end Reindexing.Yaml
