import Reindexing.Json.Value
import Reindexing.Text.Lowercase
import Reindexing.Word

/-!
# Layers of settings

Settings from several places lie one above the other. A key is a path: a dot leads
into a table and an index in brackets into a list, counted from the end when it is
negative. Names are compared in lowercase. Where two layers meet, tables are merged
and anything else is replaced.
-/
namespace Reindexing.Config

/-- The entries of a table; nothing else has any. -/
def entriesOf (j : Json) : List (String × Json) := j.record?.getD []

mutual
/-- Sets a key of a table; what is no table gives way to one. -/
def setKey (key : String) (root value : Json) : Json :=
  let name := Text.lowercase key
  let entries := entriesOf root
  match value with
  | .record incoming =>
    let below := ((entries.find? (·.1 = name)).map (·.2)).getD (.record [])
    .record (Json.putSorted name (mergeInto below incoming) entries)
  | value => .record (Json.putSorted name value entries)

/-- Merges entries into what is there. -/
def mergeInto (below : Json) : List (String × Json) → Json
  | [] => below
  | (key, value) :: rest => mergeInto (setKey key below value) rest
end

/-- A step from a value to a value inside it. -/
inductive PathStep where
  | name (key : String)
  | index (place : Int)
  deriving DecidableEq, Repr

def isNameChar (c : Char) : Bool := c.isAlphanum || c = '-' || c = '_' || c = ' '

/-- The index in front of a closing bracket. -/
def readIndex? (cs : List Char) : Option (Int × List Char) :=
  let isGap (c : Char) : Bool := c = ' ' || c = '\t'
  let cs := cs.dropWhile isGap
  let (isNegative, cs) := match cs with
    | '-' :: rest => (true, rest)
    | cs => (false, cs)
  let digits := cs.takeWhile Char.isDigit
  let n : Int := digits.foldl (fun n d => 10 * n + (d.toNat - 48)) 0
  let place := if isNegative then -n else n
  match (cs.dropWhile Char.isDigit).dropWhile isGap with
  | ']' :: rest => if digits.isEmpty || !Word.isInt64 place then none else some (place, rest)
  | _ => none

/-- The steps behind the first name of a path. -/
def readSteps? : Nat → List Char → Option (List PathStep)
  | _, [] => some []
  | fuel + 1, '.' :: rest =>
    let name := rest.takeWhile isNameChar
    if name.isEmpty then none
    else (readSteps? fuel (rest.dropWhile isNameChar)).map (.name (String.ofList name) :: ·)
  | fuel + 1, '[' :: rest =>
    (readIndex? rest).bind fun (place, rest) => (readSteps? fuel rest).map (.index place :: ·)
  | _, _ => none

/-- The steps of a key; a key that is no path is a single name. -/
def pathOf (key : String) : List PathStep :=
  let cs := key.toList
  let first := cs.takeWhile isNameChar
  let steps? := if first.isEmpty then none else readSteps? cs.length (cs.dropWhile isNameChar)
  match steps? with
  | some steps => .name (String.ofList first) :: steps
  | none => [.name key]

/-- The list with at least `n` items. -/
def padTo (n : Nat) (items : List Json) : List Json := items ++ List.replicate (n - items.length) .null

/--
Sets what a path leads to; tables and lists on the way are made. An index that lies in front of
the first item leads nowhere.
-/
def setPath? (value : Json) : List PathStep → Json → Option Json
  | [], _ => some value
  | [.name key], root => some (setKey key root value)
  | .name key :: rest, root =>
    let name := Text.lowercase key
    let entries := entriesOf root
    let below := ((entries.find? (·.1 = name)).map (·.2)).getD .null
    (setPath? value rest below).map fun inner => .record (Json.putSorted name inner entries)
  | .index place :: rest, root =>
    let items := root.list?.getD []
    let place := if place < 0 then place + items.length else place
    if place < 0 then none
    else
      let items := padTo (place.toNat + 1) items
      (setPath? value rest (items.getD place.toNat .null)).map fun inner => .list (items.set place.toNat inner)

/-- Lays settings over others. -/
def overlay? (below : Json) (entries : List (String × Json)) : Option Json :=
  entries.foldlM (fun root (key, value) => setPath? value (pathOf key) root) below

end Reindexing.Config
