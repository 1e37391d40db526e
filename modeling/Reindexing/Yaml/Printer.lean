import Reindexing.Json.Printer
import Reindexing.Text.Search
import Reindexing.Yaml.Scalar

/-!
# Writing YAML

Values in block form: a field or an item on each line, a list at the depth of the
key that holds it. A text stands without quotes if that reads back as the same
text; a text of several lines stands in a block, and what cannot be shown is
escaped between double quotes.
-/
namespace Reindexing.Yaml

/-- Numbers are written positionally from `10 ^ -5` to below `10 ^ 16`. -/
def realFormat : Decimal.Format := ⟨some (-5), some 15, true, false, ".nan", ".inf", "-.inf"⟩

def isLineBreak (c : Char) : Bool := c == '\n' || c == '\r' || [0x85, 0x2028, 0x2029].contains c.toNat

/-- Blanks, line ends, and the end of the text. -/
def standsAlone : Option Char → Bool
  | some c => c == ' ' || c == '\t' || isLineBreak c
  | none => true

/-- Characters that stand for themselves in a document. -/
def isShown (c : Char) : Bool :=
  let n := c.toNat
  n == 0x0a || (0x20 ≤ n && n ≤ 0x7e) || (0xa0 ≤ n && n ≤ 0xfffd && n != 0xfeff) || 0x10000 ≤ n

/-- Characters that mean something at the start of a word. -/
def startsMarkup (c : Char) : Bool := "#,[]\x7b\x7d&*!|>'\"%@\x60".toList.contains c

/-- Whether a text has a mark of the notation, given the character in front of what is left. -/
def hasMarkup (before : Option Char) : List Char → Bool
  | [] => false
  | c :: rest =>
    let marks := match before with
      | none => startsMarkup c || ((c == '?' || c == ':' || c == '-') && standsAlone rest.head?)
      | some b => (c == ':' && standsAlone rest.head?) || (c == '#' && standsAlone (some b))
    marks || hasMarkup (some c) rest

/-- Whether a text starts like the line between two documents. -/
def hasDocumentMark (cs : List Char) : Bool := "---".toList.isPrefixOf cs || "...".toList.isPrefixOf cs

/-- Whether a blank stands on the given side of a line end. -/
def touches (p q : Char → Bool) : List Char → Bool
  | a :: b :: rest => (p a && q b) || touches p q (b :: rest)
  | _ => false

def isSpace (c : Char) : Bool := c == ' '

/-- Whether a text can stand without quotes, apart from what it would be read as. -/
def fitsPlain (cs : List Char) : Bool :=
  !hasDocumentMark cs && !hasMarkup none cs && cs.all isShown && !cs.any isLineBreak &&
    !cs.head?.any isSpace && !cs.getLast?.any isSpace

def fitsSingleQuotes (cs : List Char) : Bool :=
  cs.all isShown && !touches isLineBreak isSpace cs && !touches isSpace isLineBreak cs

/-- Whether a text can stand in a block. -/
def fitsBlock (cs : List Char) : Bool :=
  cs.all isShown && !touches isSpace isLineBreak cs && !cs.getLast?.any isSpace

/-- Digits behind a zero. They are no number, but look like one. -/
def isZeroLed (cs : List Char) : Bool :=
  let ds := match cs with
    | '-' :: rest | '+' :: rest => rest
    | _ => cs
  ds.length > 1 && ds.head? == some '0' && ds.all Decimal.isDigit

/-- Digits in a base other than ten, behind the sign of the base; the number must fit in 128 bits. -/
def isBased (cs : List Char) : Bool :=
  let value? (base : Nat) (ds : List Char) : Option Nat :=
    match ds.mapM fun c => (Json.hexValue? c).filter (· < base) with
    | some (d :: ds) => some ((d :: ds).foldl (fun n d => base * n + d) 0)
    | _ => none
  let magnitude? : List Char → Option Nat
    | '0' :: 'x' :: ds => value? 16 ds
    | '0' :: 'o' :: ds => value? 8 ds
    | '0' :: 'b' :: ds => value? 2 ds
    | _ => none
  match cs with
  | '-' :: rest => (magnitude? rest).any (· ≤ Nat.pow 2 127)
  | '+' :: rest => (magnitude? rest).any (· < Nat.pow 2 128)
  | _ => (magnitude? cs).any (· < Nat.pow 2 128)

/-- Whether a word would be read as something other than a text. -/
def looksTyped (s : String) : Bool :=
  ["", "~", "null", "Null", "NULL", "true", "True", "TRUE", "false", "False", "FALSE", ".inf", ".Inf", ".INF",
    "+.inf", "+.Inf", "+.INF", "-.inf", "-.Inf", "-.INF", ".nan", ".NaN", ".NAN"].contains s ||
    isBased s.toList || isZeroLed s.toList || (Decimal.readFloat? s.toList).any Float.isFinite

/-- The short escapes. -/
def shortEscapes : List (Nat × Char) :=
  [(0x00, '0'), (0x07, 'a'), (0x08, 'b'), (0x09, 't'), (0x0a, 'n'), (0x0b, 'v'), (0x0c, 'f'), (0x0d, 'r'),
    (0x1b, 'e'), (0x22, '"'), (0x5c, '\\'), (0x85, 'N'), (0xa0, '_'), (0x2028, 'L'), (0x2029, 'P')]

def escapeChar (c : Char) : List Char :=
  let n := c.toNat
  if isShown c && !isLineBreak c && c != '"' && c != '\\' then [c]
  else
    match shortEscapes.find? (·.1 = n) with
    | some (_, e) => ['\\', e]
    | none =>
      let hex (width : Nat) := (Json.hexDigits width n).map Char.toUpper
      if n ≤ 0xff then '\\' :: 'x' :: hex 2
      else if n ≤ 0xffff then '\\' :: 'u' :: hex 4
      else '\\' :: 'U' :: hex 8

/-! ## The page -/

/-- What is written so far, in reverse, and where the next character goes. -/
structure Page where
  done : List Char
  column : Nat
  /-- What follows needs no blank in front of it. -/
  hasGap : Bool
  /-- Nothing but marks that may share a line stands on the line. -/
  isIndent : Bool

namespace Page

def start : Page := ⟨[], 0, true, true⟩

def put (cs : List Char) (p : Page) : Page := { p with done := cs.reverse ++ p.done, column := p.column + cs.length }

/-- Writes a line end of a text. -/
def putBreak (c : Char) (p : Page) : Page := { p with done := c :: p.done, column := 0, isIndent := true }

/-- Goes to a column, on a new line if need be. -/
def indentTo (depth : Nat) (p : Page) : Page :=
  let p := if !p.isIndent || depth < p.column || (p.column = depth && !p.hasGap) then p.putBreak '\n' else p
  { p.put (List.replicate (depth - p.column) ' ') with hasGap := true, isIndent := true }

/-- Writes what a line may go on behind. -/
def mark (cs : List Char) (p : Page) : Page :=
  { (if p.hasGap then p else p.put [' ']).put cs with hasGap := false }

/-- Writes what ends the indentation of a line. -/
def word (cs : List Char) (p : Page) : Page := { p.mark cs with isIndent := false }

/-- Writes a mark directly behind a word. -/
def close (cs : List Char) (p : Page) : Page := { p.put cs with hasGap := false, isIndent := false }

end Page

/-! ## Texts -/

def writeDoubleQuoted (cs : List Char) (p : Page) : Page := p.word ('"' :: (cs.flatMap escapeChar ++ ['"']))

/-- Writes the characters of a text in single quotes; behind a line end a line starts at the given column. -/
def writeLines (depth : Nat) (inBreak : Bool) : List Char → Page → Page
  | [], p => if inBreak then p.indentTo depth else p
  | c :: rest, p =>
    if isLineBreak c then
      let p := if c = '\n' && !inBreak then p.putBreak '\n' else p
      writeLines depth true rest (p.putBreak c)
    else
      let p := if inBreak then p.indentTo depth else p
      writeLines depth false rest ({ p with isIndent := false }.put (if c = '\'' then ['\'', c] else [c]))

def writeSingleQuoted (depth : Nat) (cs : List Char) (p : Page) : Page :=
  (writeLines depth false cs (p.word ['\''])).close ['\'']

/-- The signs behind the bar of a block: where its lines start, and how its last line ends. -/
def blockHints (cs : List Char) : List Char :=
  let hint := if cs.head?.any fun c => isSpace c || isLineBreak c then ['2'] else []
  hint ++ match cs.reverse.map isLineBreak with
    | true :: true :: _ | [true] => ['+']
    | true :: _ => []
    | _ => ['-']

/-- Writes the characters of a block, whose lines start at the given column. -/
def writeBlockLines (depth : Nat) (inBreak : Bool) : List Char → Page → Page
  | [], p => p
  | c :: rest, p =>
    if isLineBreak c then writeBlockLines depth true rest (p.putBreak c)
    else
      let p := if inBreak then p.indentTo depth else p
      writeBlockLines depth false rest ({ p with isIndent := false }.put [c])

def writeBlock (depth : Nat) (cs : List Char) (p : Page) : Page :=
  writeBlockLines depth true cs { (p.word ('|' :: blockHints cs)).putBreak '\n' with hasGap := true }

/-- Writes a text inside something whose lines start at the given column. -/
def writeText (depth : Nat) (s : String) (p : Page) : Page :=
  let cs := s.toList
  if cs.contains '\n' then if fitsBlock cs then writeBlock depth cs p else writeDoubleQuoted cs p
  else if !looksTyped s && fitsPlain cs then p.word cs
  else if fitsSingleQuotes cs then writeSingleQuoted depth cs p
  else writeDoubleQuoted cs p

/-! ## Values -/

/-- A key fits in front of its colon. -/
def isSimpleKey (s : String) : Bool := !s.toList.any isLineBreak && s.utf8ByteSize ≤ 128

def numberChars : Number → List Char
  | .int i => (Decimal.ofInt i).toList
  | .real bits => (Decimal.write realFormat bits).toList

/-- The column inside a collection that stands at a column, or outside of all collections. -/
def inside : Option Nat → Nat
  | none => 0
  | some depth => depth + 2

mutual
/-- Writes a value inside a collection; a list that is a field stands at the depth of its key. -/
def writeNode (depth : Option Nat) (isField : Bool) : Json → Page → Page
  | .null, p => p.word "null".toList
  | .bool b, p => p.word (if b then "true" else "false").toList
  | .number n, p => p.word (numberChars n)
  | .text s, p => writeText (inside (some (depth.getD 0))) s p
  | .list [], p => p.word "[]".toList
  | .list (j :: rest), p =>
    writeItems (if isField && !p.isIndent then depth.getD 0 else inside depth) (j :: rest) p
  | .record [], p => p.word "\x7b\x7d".toList
  | .record (f :: rest), p => writeFields (inside depth) (f :: rest) p

def writeItems (depth : Nat) : List Json → Page → Page
  | [], p => p
  | j :: rest, p => writeItems depth rest (writeNode (some depth) false j ((p.indentTo depth).mark ['-']))

/-- Writes fields. A key that is long, or has several lines, stands behind a question mark. -/
def writeFields (depth : Nat) : List (String × Json) → Page → Page
  | [], p => p
  | (key, j) :: rest, p =>
    let p := p.indentTo depth
    let p :=
      if isSimpleKey key then (writeText (depth + 2) key p).close [':']
      else ((writeText (depth + 2) key (p.mark ['?'])).indentTo depth).mark [':']
    writeFields depth rest (writeNode (some depth) true j p)
end

/-- The document that holds a value. -/
def document (j : Json) : String :=
  String.ofList ((writeNode none false j Page.start).indentTo 0).done.reverse

end Reindexing.Yaml
