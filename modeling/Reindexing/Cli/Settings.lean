import Reindexing.Toml.Document
import Reindexing.Toml.Printer

/-!
# Settings of an operator

An operator keeps texts under keys in a file. Two of the keys mean something to
the program: the address of the server, and the actor on whose behalf it acts.
Keys are sorted, so that equal settings have equal files.
-/
namespace Reindexing.Cli

structure Settings where
  entries : List (String × String)
  deriving DecidableEq, Repr

namespace Settings

def empty : Settings := ⟨[]⟩

def get? (s : Settings) (key : String) : Option String := s.entries.lookup key

/-- Puts an entry into sorted entries, in place of one with the same key. -/
def putSorted (key value : String) : List (String × String) → List (String × String)
  | [] => [(key, value)]
  | (k, v) :: rest =>
    if key = k then (key, value) :: rest
    else if key < k then (key, value) :: (k, v) :: rest
    else (k, v) :: putSorted key value rest

def insert (s : Settings) (key value : String) : Settings := ⟨putSorted key value s.entries⟩

/-- The table that holds the entries. -/
def table : String := "values"

/-- An entry whose value is a text. -/
def textEntry? : String × Toml.Value → Option (String × String)
  | (key, .text value) => some (key, value)
  | _ => none

/-- The entries of a table all of whose values are texts. -/
def ofEntries? (entries : List (String × Toml.Value)) : Option Settings :=
  (entries.mapM textEntry?).map fun pairs => pairs.foldl (fun s (key, value) => s.insert key value) empty

/-- Reads the text of a file; other tables do not count. -/
def ofText? (text : String) : Option Settings :=
  (Toml.ofText? text).bind fun document =>
    match document.lookup table with
    | none => some empty
    | some (.table entries) => ofEntries? entries
    | some _ => none

def toText (s : Settings) : String := Toml.textTable table s.entries

/-- The file below a home directory. -/
def fileIn (home : String) : String := home ++ "/.reindex/config.toml"

def directoryIn (home : String) : String := home ++ "/.reindex"

end Settings

end Reindexing.Cli
