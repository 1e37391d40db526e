import Reindexing.Yaml.Layout
import Reindexing.Yaml.Scalar

/-!
# YAML documents

A document is a node: a scalar, a list or a mapping of nodes. An alias stands for
the node that last had its anchor; inside that node it stands for nothing valid.
No key of a mapping may be repeated, and a key that is not valid gives way to its
value, which becomes the next key. A text holds at most one document, whose value
is read as JSON; a text without a document holds an empty mapping. Keys are
scalars other than nothing, and fractions are numbers. What is not valid is read
as nothing.
-/
namespace Reindexing.Yaml

inductive Node where
  | scalar (value : Scalar)
  | list (items : List Node)
  | map (entries : List (Node × Node))
  deriving Repr, Inhabited

namespace Node

def null : Node := .scalar .null

def isValid : Node → Bool
  | .scalar .invalid => false
  | _ => true

mutual
/-- Whether two nodes are the same. -/
def same : Node → Node → Bool
  | .scalar a, .scalar b => a = b
  | .list as, .list bs => sameItems as bs
  | .map as, .map bs => sameEntries as bs
  | _, _ => false

def sameItems : List Node → List Node → Bool
  | [], [] => true
  | a :: as, b :: bs => same a b && sameItems as bs
  | _, _ => false

def sameEntries : List (Node × Node) → List (Node × Node) → Bool
  | [], [] => true
  | (j, a) :: as, (k, b) :: bs => same j k && same a b && sameEntries as bs
  | _, _ => false
end

/-- Makes a mapping of keys and values in turn; `key?` is the key that waits for its value. -/
def pair? (key? : Option Node) (done : List (Node × Node)) : List Node → Option Node
  | [] => some (.map done.reverse)
  | node :: rest =>
    match key? with
    | none => pair? (if node.isValid then some node else none) done rest
    | some key => if done.any fun (k, _) => k.same key then none else pair? none ((key, node) :: done) rest

end Node

/-! ## Reading nodes from tokens -/

/-- What is left of the tokens, and what the tokens so far have declared. -/
structure Reading where
  tokens : List Token
  /-- What the handles of tags stand for. -/
  handles : List (String × String)
  /-- The number of the node that an anchor names, the last one first. -/
  names : List (String × Nat)
  /-- The nodes that have an anchor and have been read. -/
  nodes : List (Nat × Node)

namespace Reading

def next? (r : Reading) : Option Token := r.tokens.head?

def skip (r : Reading) : Reading := { r with tokens := r.tokens.drop 1 }

/-- Whether one of some tokens comes next; past the last token none does. -/
def isAt (tokens : List Token) (r : Reading) : Bool := r.next?.any tokens.contains

/-- What a tag stands for; a handle with a name must have been declared. -/
def resolve? (t : Tag) (r : Reading) : Option Tag :=
  match r.handles.lookup t.handle with
  | some target => some { t with handle := target }
  | none =>
    if t.handle = "!!" then some { t with handle := Tag.standard }
    else if 2 ≤ t.handle.length then none
    else some t

/-- Reads an anchor and a tag in any order. The number is that of the node to come. -/
def properties? (r : Reading) : Option (Option Nat × Option Tag × Reading) :=
  let named (name : String) (r : Reading) : Reading := { r.skip with names := (name, r.names.length) :: r.names }
  match r.tokens with
  | .anchor name :: .tag t :: _ => (r.resolve? t).map fun t => (some r.names.length, some t, (named name r).skip)
  | .anchor name :: _ => some (some r.names.length, none, named name r)
  | .tag t :: .anchor name :: _ =>
    (r.resolve? t).map fun t => (some r.names.length, some t, named name r.skip)
  | .tag t :: _ => (r.resolve? t).map fun t => (none, some t, r.skip)
  | _ => some (none, none, r)

/-- Remembers a node under its number. -/
def remember (number : Option Nat) (node : Node) (r : Reading) : Reading :=
  match number with
  | some n => { r with nodes := (n, node) :: r.nodes }
  | none => r

mutual
/-- Reads a node. Block collections may start where `inBlock` says so, and items without a start where `bare` does. -/
def node? (inBlock bare : Bool) : Nat → Reading → Option (Node × Reading)
  | 0, _ => none
  | fuel + 1, r =>
    match r.next? with
    | some (.alias name) =>
      (r.names.lookup name).map fun n => ((r.nodes.lookup n).getD (.scalar .invalid), r.skip)
    | _ => do
      let (number, tag, r) ← r.properties?
      let (node, r) ← match r.next? with
        | some .entry =>
          if bare then entries? true [] fuel r
          else if tag.isSome || number.isSome then some (.scalar (Scalar.ofWord tag ""), r) else none
        | some (.scalar true text) => some (.scalar (Scalar.ofWord tag text), r.skip)
        | some (.scalar false text) => some (.scalar (.text text), r.skip)
        | some .openBracket => flowItems? true [] fuel r.skip
        | some .openBrace => flowFields? true [] fuel r.skip
        | next =>
          if inBlock && next = some .blockList then entries? false [] fuel r.skip
          else if inBlock && next = some .blockMap then fields? [] fuel r.skip
          else if tag.isSome || number.isSome then some (.scalar (Scalar.ofWord tag ""), r)
          else none
      some (node, r.remember number node)

/-- Reads a node, or nothing in front of one of some tokens. -/
def nodeUnless? (tokens : List Token) (inBlock bare : Bool) : Nat → Reading → Option (Node × Reading)
  | 0, _ => none
  | fuel + 1, r => if r.isAt tokens then some (Node.null, r) else node? inBlock bare fuel r

/-- Reads the items behind dashes. -/
def entries? (bare : Bool) (done : List Node) : Nat → Reading → Option (Node × Reading)
  | 0, _ => none
  | fuel + 1, r =>
    if r.next? = some .entry then do
      let ends := if bare then [Token.entry, .key, .value, .blockEnd] else [Token.entry, .blockEnd]
      let (node, r) ← nodeUnless? ends true false fuel r.skip
      entries? bare (node :: done) fuel r
    else if bare then some (.list done.reverse, r)
    else if r.next? = some .blockEnd then some (.list done.reverse, r.skip)
    else none

/-- Reads the fields of a block. -/
def fields? (done : List Node) : Nat → Reading → Option (Node × Reading)
  | 0, _ => none
  | fuel + 1, r =>
    let ends := [Token.key, .value, .blockEnd]
    match r.next? with
    | some .blockEnd => (Node.pair? none [] done.reverse).map fun node => (node, r.skip)
    | some .key | some .value => do
      let (key, r) ← if r.next? = some .key then nodeUnless? ends true true fuel r.skip else some (Node.null, r)
      let (node, r) ← if r.next? = some .value then nodeUnless? ends true true fuel r.skip else some (Node.null, r)
      fields? (node :: key :: done) fuel r
    | _ => none

/-- Reads the fields between braces. -/
def flowFields? (isFirst : Bool) (done : List Node) : Nat → Reading → Option (Node × Reading)
  | 0, _ => none
  | fuel + 1, r => do
    let finish (r : Reading) : Option (Node × Reading) :=
      (Node.pair? none [] done.reverse).map fun node => (node, r.skip)
    if r.next? = some .closeBrace then finish r
    else
      let r ← if isFirst then some r else if r.next? = some .comma then some r.skip else none
      if r.next? = some .closeBrace then finish r
      else
        let isPair := r.isAt [.key, .value]
        let (key, r) ←
          if r.next? = some .key then nodeUnless? [.value, .comma, .closeBrace] false false fuel r.skip
          else if isPair then some (Node.null, r)
          else node? false false fuel r
        let (node, r) ←
          if isPair && r.next? = some .value then nodeUnless? [.comma, .closeBrace] false false fuel r.skip
          else some (Node.null, r)
        flowFields? false (node :: key :: done) fuel r

/-- Reads the items between brackets; an item may be a single pair. -/
def flowItems? (isFirst : Bool) (done : List Node) : Nat → Reading → Option (Node × Reading)
  | 0, _ => none
  | fuel + 1, r => do
    if r.next? = some .closeBracket then some (.list done.reverse, r.skip)
    else
      let r ← if isFirst then some r else if r.next? = some .comma then some r.skip else none
      if r.next? = some .closeBracket then some (.list done.reverse, r.skip)
      else if r.next? = some .key then
        let r := r.skip
        let (key, r) ←
          if r.isAt [.value, .comma, .closeBracket] then some (Node.null, r.skip) else node? false false fuel r
        let (node, r) ←
          if r.next? = some .value then nodeUnless? [.comma, .closeBracket] false false fuel r.skip
          else some (Node.null, r)
        let pair ← Node.pair? none [] [key, node]
        flowItems? false (pair :: done) fuel r
      else
        let (node, r) ← node? false false fuel r
        flowItems? false (node :: done) fuel r
end

/-! ## Documents -/

/-- Reads directives. What a directive declares holds only if no other directive follows it. -/
def directives? (hasVersion : Bool) : List Token → Reading → Option Reading
  | .version :: rest, r =>
    if hasVersion then none else directives? true rest { r with tokens := rest, handles := [] }
  | .handle name target :: rest, r => directives? hasVersion rest { r with tokens := rest, handles := [(name, target)] }
  | _, r => some r

def isDirective : Token → Bool
  | .version | .handle _ _ => true
  | _ => false

/-- Reads the documents that are left. Without the line that ends a document, the next one needs its first line. -/
def documents? (hasEnded : Bool) : Nat → Reading → Option (List Node)
  | 0, _ => none
  | fuel + 1, r => do
    let r := { r with tokens := r.tokens.dropWhile (· == Token.documentEnd), names := [], nodes := [] }
    match r.next? with
    | none => some []
    | some t =>
      let (node, r) ←
        if hasEnded && !isDirective t && t != Token.documentStart then node? true false fuel r
        else do
          let r ← directives? false r.tokens r
          if r.next? != some Token.documentStart then none
          let r := r.skip
          let isEnd (t : Token) : Bool := isDirective t || t == Token.documentStart || t == Token.documentEnd
          if r.next?.all isEnd then some (Node.null, r)
          else node? true false fuel r
      let r := { r with handles := [] }
      match r.next? with
      | some .documentEnd => (documents? true fuel r.skip).map (node :: ·)
      | next => if next.any isDirective then none else (documents? false fuel r).map (node :: ·)

end Reading

/-- The documents of a text. -/
def Node.ofText? (s : String) : Option (List Node) :=
  (Token.ofText? s).bind fun tokens => Reading.documents? true (3 * tokens.length + 3) ⟨tokens, [], [], []⟩

/-! ### Values of documents -/

/-- The value of a fraction, which must be written in digits. -/
def readReal? (s : String) : Option Json :=
  (Decimal.readFloat? s.toList).map fun x => .number (.real x.toBits)

def Scalar.toJson? : Scalar → Option Json
  | .null | .invalid => some .null
  | .flag b => some (.bool b)
  | .int i => some (.int i)
  | .real s => readReal? s
  | .text s => some (.text s)

namespace Node

/-- The text of a key. -/
def keyText? : Node → Option String
  | .scalar (.flag b) => some (if b then "true" else "false")
  | .scalar (.int i) => some (Decimal.ofInt i)
  | .scalar (.real s) | .scalar (.text s) => some s
  | _ => none

mutual
def toJson? : Node → Option Json
  | .scalar s => s.toJson?
  | .list items => (itemsToJson? items).map .list
  | .map entries => (entriesToJson? entries).map .record

def itemsToJson? : List Node → Option (List Json)
  | [] => some []
  | item :: rest =>
    match toJson? item, itemsToJson? rest with
    | some j, some js => some (j :: js)
    | _, _ => none

def entriesToJson? : List (Node × Node) → Option (List (String × Json))
  | [] => some []
  | (key, node) :: rest =>
    match keyText? key, toJson? node, entriesToJson? rest with
    | some key, some j, some js => some ((key, j) :: js)
    | _, _, _ => none
end

end Node

/-- The value of the document in a text, in normal form. -/
def ofText? (s : String) : Option Json :=
  match Node.ofText? s with
  | some [] => some (.record [])
  | some [node] => node.toJson?.map Json.normal
  | _ => none

end Reindexing.Yaml
