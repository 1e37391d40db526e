import Reindexing.Json.Value

/-!
# TOML values

The values of a TOML document. While a document is read, its tables are kept
with how they came about, since that decides what may be added to them: a table
under a header of its own is defined once, a table that dotted keys made grows
only by dotted keys, and a table between braces is closed.
-/
namespace Reindexing.Toml

inductive Value where
  | text (value : String)
  | integer (value : Int)
  | real (bits : UInt64)
  | flag (value : Bool)
  /-- A date, a time, or both. -/
  | moment (text : String)
  | list (items : List Value)
  | table (entries : List (String × Value))
  deriving Repr, Inhabited

/-- How a table came about. -/
inductive Origin where
  /-- By the header of a table inside it. -/
  | implied
  | header
  | dotted
  deriving DecidableEq, Repr

/-- What a key leads to while a document is read. -/
inductive Node where
  | leaf (value : Value)
  | table (origin : Origin) (entries : List (String × Node))
  /-- A list of tables under headers, the last of which is still open. -/
  | tables (items : List (List (String × Node)))
  deriving Repr, Inhabited

abbrev Entries := List (String × Node)

namespace Entries

def get? (entries : Entries) (key : String) : Option Node :=
  (List.find? (fun entry => entry.1 = key) entries).map (·.2)

/-- Puts a node under a key, in place of what is there. -/
def put (entries : Entries) (key : String) (node : Node) : Entries :=
  if entries.any (·.1 = key) then entries.map fun (k, n) => if k = key then (k, node) else (k, n)
  else entries ++ [(key, node)]

/-- Changes the last of some tables. -/
def changeLast (change : Entries → Option Entries) : List Entries → Option (List Entries)
  | [] => none
  | [last] => (change last).map fun last => [last]
  | first :: rest => (changeLast change rest).map (first :: ·)

/-- Follows a path through tables, makes those that are missing, and changes the table at the
end. Dotted keys do not lead into tables with headers of their own. -/
def descend (made : Origin) (change : Origin → Entries → Option Entries) (origin : Origin) (entries : Entries) :
    List String → Option Entries
  | [] => change origin entries
  | key :: rest =>
    match get? entries key with
    | none => (descend made change made [] rest).map fun inner => put entries key (.table made inner)
    | some (.leaf _) => none
    | some (.table origin inner) =>
      if made = .dotted && origin = .header then none
      else (descend made change origin inner rest).map fun inner => put entries key (.table origin inner)
    | some (.tables items) =>
      (changeLast (fun last => descend made change .header last rest) items).map fun items =>
        put entries key (.tables items)

/-- Defines a key behind dotted keys, inside a table. -/
def define (entries : Entries) (path : List String) (key : String) (value : Value) : Option Entries :=
  let add (origin : Origin) (inner : Entries) : Option Entries :=
    if (!path.isEmpty && origin ≠ .dotted) || inner.any (·.1 = key) then none else some (inner ++ [(key, .leaf value)])
  descend .dotted add .header entries path

/-- Opens the table that a header names. -/
def openTable (entries : Entries) (path : List String) (key : String) : Option Entries :=
  let add (_ : Origin) (inner : Entries) : Option Entries :=
    match get? inner key with
    | none => some (inner ++ [(key, .table .header [])])
    | some (.table .implied held) => some (put inner key (.table .header held))
    | some _ => none
  descend .implied add .header entries path

/-- Opens a further table in the list of tables that a header names. -/
def openItem (entries : Entries) (path : List String) (key : String) : Option Entries :=
  let add (_ : Origin) (inner : Entries) : Option Entries :=
    match get? inner key with
    | none => some (inner ++ [(key, .tables [[]])])
    | some (.tables items) => some (put inner key (.tables (items ++ [[]])))
    | some _ => none
  descend .implied add .header entries path

/-- Changes the table under an open header. -/
def within (entries : Entries) (header : List String) (change : Entries → Option Entries) : Option Entries :=
  descend .implied (fun _ inner => change inner) .header entries header

end Entries

mutual
def Node.toValue : Node → Value
  | .leaf value => value
  | .table _ entries => .table (entriesToValues entries)
  | .tables items => .list (tablesToValues items)

def entriesToValues : List (String × Node) → List (String × Value)
  | [] => []
  | (key, node) :: rest => (key, node.toValue) :: entriesToValues rest

def tablesToValues : List (List (String × Node)) → List Value
  | [] => []
  | entries :: rest => .table (entriesToValues entries) :: tablesToValues rest
end

mutual
/-- The value in JSON; a date or a time is its text. -/
def Value.toJson : Value → Json
  | .text s | .moment s => .text s
  | .integer i => .int i
  | .real bits => .number (.real bits)
  | .flag b => .bool b
  | .list items => .list (listToJson items)
  | .table entries => .record (tableToJson entries)

def listToJson : List Value → List Json
  | [] => []
  | value :: rest => value.toJson :: listToJson rest

def tableToJson : List (String × Value) → List (String × Json)
  | [] => []
  | (key, value) :: rest => (key, value.toJson) :: tableToJson rest
end

end Reindexing.Toml
