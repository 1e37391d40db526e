import Reindexing.Yaml.Cursor
import Reindexing.Json.Document

/-!
# YAML tokens

The signs that a YAML text is made of. Besides the marks that are written there
are the starts and ends of block collections, which only columns tell. A node may
have an anchor, by which aliases repeat it, and a tag, which says what it is; the
directives of a document declare what the tags' handles stand for.
-/
namespace Reindexing.Yaml

structure Tag where
  handle : String
  suffix : String
  deriving DecidableEq, Repr

inductive Token where
  | version
  | handle (name target : String)
  | documentStart
  | documentEnd
  | blockList
  | blockMap
  | blockEnd
  | openBracket
  | closeBracket
  | openBrace
  | closeBrace
  | comma
  | entry
  | key
  | value
  | alias (name : String)
  | anchor (name : String)
  | tag (tag : Tag)
  /-- A scalar; `isPlain` says that it has no quotes and is no block. -/
  | scalar (isPlain : Bool) (text : String)
  deriving DecidableEq, Repr

/-! ## Anchors -/

def isAnchorChar (c : Char) : Bool :=
  !isBlank c && !isLineEnd c && !isFlowMark c && c != '\ufeff'

/-- The name behind the mark of an anchor or an alias. -/
def readAnchor? (c : Cursor) : Option (String × Cursor) :=
  let name := (c.rest.drop 1).takeWhile isAnchorChar
  if name.isEmpty then none else some (String.ofList name, c.skip (name.length + 1))

/-! ## Tags -/

/-- Characters of the names of handles and directives. -/
def isNameChar (c : Char) : Bool := c.isAlphanum || c = '_' || c = '-'

def isUriChar (c : Char) : Bool := isNameChar c || "#;/?:@&=+$,.!~*'()[]%".toList.contains c

def isTagChar (c : Char) : Bool := isUriChar c && !isFlowMark c && c != '!'

/-- The byte of an escape, and the rest. -/
def readByte? : List Char → Option (Nat × List Char)
  | '%' :: a :: b :: rest =>
    match Json.hexValue? a, Json.hexValue? b with
    | some a, some b => some (16 * a + b, rest)
    | _, _ => none
  | _ => none

/-- The bytes of an escaped character behind its first one. -/
def readTail? : Nat → Nat → List Char → Option (Nat × List Char)
  | 0, code, cs => some (code, cs)
  | n + 1, code, cs =>
    match readByte? cs with
    | some (b, rest) => if b / 64 = 2 then readTail? n (256 * code + b) rest else none
    | none => none

/-- An escaped character: its first byte tells how many there are, and their digits together number it. -/
def readEscapedChar? (cs : List Char) : Option (Char × List Char) :=
  match readByte? cs with
  | none => none
  | some (b, rest) =>
    let more? := if b < 0x80 then some 0 else if b / 32 = 6 then some 1 else if b / 16 = 14 then some 2
      else if b / 8 = 30 then some 3 else none
    match more?.bind (readTail? · b rest) with
    | some (n, rest) => if n.isValidChar then some (Char.ofNat n, rest) else none
    | none => none

/-- The characters of a tag that satisfy `p`, with the length they are written in. -/
def readUri? (p : Char → Bool) : Nat → List Char → Option (List Char × Nat)
  | 0, _ => none
  | fuel + 1, cs =>
    match cs with
    | '%' :: _ =>
      match readEscapedChar? cs with
      | some (c, rest) =>
        (readUri? p fuel rest).map fun (word, n) => (c :: word, n + (cs.length - rest.length))
      | none => none
    | c :: rest => if p c then (readUri? p fuel rest).map fun (word, n) => (c :: word, n + 1) else some ([], 0)
    | [] => some ([], 0)

def readUriAll? (p : Char → Bool) (cs : List Char) : Option (List Char × Nat) := readUri? p (cs.length + 1) cs

/-- An exclamation mark with a name behind it, and a second mark if there is one. -/
def readHandle? : List Char → Option (List Char)
  | '!' :: rest =>
    let name := rest.takeWhile isNameChar
    some ('!' :: (name ++ if (rest.drop name.length).head? = some '!' then ['!'] else []))
  | _ => none

/-- A tag: in angle brackets, behind a handle, or behind a single mark. -/
def readTag? (inFlow : Bool) (c : Cursor) : Option (Tag × Cursor) := do
  let (tag, c) ← match c.rest with
    | '!' :: '<' :: rest =>
      match readUriAll? isUriChar rest with
      | some (uri, n) =>
        if rest[n]? = some '>' then some (Tag.mk "" (String.ofList uri), c.skip (n + 3)) else none
      | none => none
    | cs => do
      let handle ← readHandle? cs
      let (suffix, n) ← readUriAll? isTagChar (cs.drop handle.length)
      let c := c.skip (handle.length + n)
      if 2 ≤ handle.length && handle.getLast? = some '!' then
        if n = 0 then none else some (Tag.mk (String.ofList handle) (String.ofList suffix), c)
      else
        match handle.drop 1 ++ suffix with
        | [] => some (Tag.mk "" "!", c)
        | suffix => some (Tag.mk "!" (String.ofList suffix), c)
  if endsWord c.rest || (inFlow && c.next?.any isFlowMark) then some (tag, c) else none

/-! ## Directives -/

/-- Up to nine digits. -/
def skipNumber? (c : Cursor) : Option Cursor :=
  let n := (c.rest.takeWhile Char.isDigit).length
  if n = 0 || 9 < n then none else some (c.skip n)

def skipBlanks (c : Cursor) : Cursor := c.blanks (c.rest.takeWhile isBlank).length

/-- What a handle stands for: a mark or the first character of a tag, and more of it. -/
def readTarget? (cs : List Char) : Option (List Char × Nat) :=
  match cs with
  | '!' :: rest => (readUriAll? isUriChar rest).map fun (word, n) => ('!' :: word, n + 1)
  | c :: _ => if isTagChar c then readUriAll? isUriChar cs else none
  | [] => none

/-- A directive with its line. One with an unknown name declares an empty handle. -/
def readDirective? (c : Cursor) : Option (Token × Cursor) := do
  let name := (c.rest.drop 1).takeWhile isNameChar
  let c := c.skip (name.length + 1)
  if name.isEmpty || !endsWord c.rest then none
  let (token, c) ← match String.ofList name with
    | "YAML" => do
      let c ← skipNumber? (skipBlanks c)
      if c.next? = some '.' then (skipNumber? (c.skip 1)).map (Token.version, ·) else none
    | "TAG" => do
      let c := skipBlanks c
      let handle ← readHandle? c.rest
      if handle.length != 1 && handle.getLast? != some '!' then none
      let c := skipBlanks (c.skip handle.length)
      let (target, n) ← readTarget? c.rest
      let c := c.skip n
      if endsWord c.rest then some (Token.handle (String.ofList handle) (String.ofList target), c) else none
    | _ => some (Token.handle "" "", c.skipLine)
  let c ← c.pastBlanks?
  if c.isAtLineEnd then some (token, c.lineEnd) else none

end Reindexing.Yaml
