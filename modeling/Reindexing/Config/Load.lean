import Reindexing.Config.Layer
import Reindexing.Config.Read
import Reindexing.Ini
import Reindexing.Json.Decoder
import Reindexing.Json.Relaxed
import Reindexing.Ron
import Reindexing.Toml.Document
import Reindexing.Yaml.Node

/-!
# Loading the configuration

The settings lie in three layers: a file with a fixed name that need not be
there, a file that the caller names, and variables of the environment on top. A
name without a known extension stands for the file that has one.
-/
namespace Reindexing.Config

/-! ### Formats of configuration files

A configuration file is written in one of several formats, which the extension
of its name tells. Whatever the format, a file holds a table of settings; whole
numbers beyond 64 bits with a sign are read as fractions. -/

inductive Format where
  | toml
  | json
  | yaml
  | ini
  | ron
  | relaxedJson
  deriving DecidableEq, Repr

namespace Format

/-- The formats with their extensions. -/
def extensions : List (Format × List String) :=
  [(.toml, ["toml"]), (.json, ["json"]), (.yaml, ["yaml", "yml"]), (.ini, ["ini"]), (.ron, ["ron"]),
    (.relaxedJson, ["json5"])]

/-- The format that an extension tells. -/
def ofExtension? (extension : String) : Option Format :=
  (extensions.find? fun (_, names) => names.contains extension).map (·.1)

def read? : Format → String → Option Json
  | .toml, s => (Toml.ofText? s).map fun entries => (Toml.Value.table entries).toJson
  | .json, s => (Json.ofText s).toOption
  | .yaml, s => Yaml.ofText? s
  | .ini, s => Ini.ofText? s
  | .ron, s => Ron.ofText? s
  | .relaxedJson, s => Json.Relaxed.ofText? s

/-- The settings in a text, if it is well-formed and holds a table. -/
def readTable? (f : Format) (s : String) : Option (List (String × Json)) := (f.read? s).bind Json.record?

end Format

/-! ### Layers -/

/-- Why there is no configuration. -/
inductive LoadFault where
  | unreadable (fault : ConfigFault)
  /-- A key names an item in front of the first one of a list. -/
  | misplaced
  | invalid (error : Error)
  deriving DecidableEq, Repr

/-- The text by which the fault itself is told. -/
def LoadFault.message : LoadFault → String
  | .unreadable fault => fault.toText
  | .misplaced => "index out of range"
  | .invalid error => error.toText

/-- The name of the file that need not be there. -/
def defaultFile : String := "config/reindex"

/-- What stands behind the last dot of a file name; a dot in front does not count. -/
def extensionOf (name : String) : String :=
  let cs := name.toList.reverse
  match cs.dropWhile (· != '.') with
  | _ :: _ :: _ => String.ofList (cs.takeWhile (· != '.')).reverse
  | _ => ""

def isFile (disk : Disk) (name : String) : Bool :=
  match (disk.locate false [] name).map disk.node? with
  | .ok (some (.file _)) => true
  | _ => false

/-- A name with an extension behind it; what stands behind the last name of a path does not count. -/
def withExtension (name extension : String) : Option String :=
  let names := Disk.pathOf name
  (names.getLast?.filter (· ≠ "..")).map fun last =>
    (if name.startsWith "/" then "/" else "") ++ Text.join "/" (names.dropLast ++ [last ++ "." ++ extension])

/-- The file that a name stands for. -/
def findFile (disk : Disk) (name : String) : Except ConfigFault (String × Format) :=
  if isFile disk name then
    match Format.ofExtension? (extensionOf ((Disk.pathOf name).getLast?.getD "")) with
    | some format => .ok (name, format)
    | none => .error (.foreign ("configuration file " ++ Text.quoted name ++ " is not of a registered file format"))
  else
    let candidates := Format.extensions.flatMap fun (format, extensions) =>
      extensions.filterMap fun extension => (withExtension name extension).map fun name => (name, format)
    match candidates.find? fun (name, _) => isFile disk name with
    | some found => .ok found
    | none => .error (.foreign ("configuration file " ++ Text.quoted name ++ " not found"))

/-- A text without the mark of its encoding that it may start with. -/
def withoutMark (text : String) : String :=
  match text.toList with
  | '\ufeff' :: rest => String.ofList rest
  | _ => text

def readFile (disk : Disk) (name : String) : Except ConfigFault (Format × String) := do
  let (name, format) ← findFile disk name
  match disk.locate false [] name >>= disk.read with
  | .ok text => .ok (format, withoutMark text)
  | .error fault => .error (.foreign fault.message)

/-- The settings in a file. -/
def parseFile (name : String) : Format × String → Except ConfigFault (List (String × Json))
  | (format, text) =>
    match format.readTable? text with
    | some entries => .ok entries
    | none => .error (.fileParse ("malformed configuration file " ++ name))

def optionalLayer (disk : Disk) (name : String) : Except ConfigFault (List (String × Json)) :=
  match readFile disk name with
  | .ok file => parseFile name file
  | .error _ => .ok []

/-- Variables with this in front hold settings. -/
def variablePrefix : String := "reindex__"

/-- The setting in a variable, in any case; two underscores part the key. -/
def variableSetting? (name value : String) : Option (String × Json) :=
  (Text.dropPrefix? variablePrefix.toList (Text.lowercase name).toList).map fun key =>
    (Text.replaceAll (String.ofList key) "__" ".", .text value)

/-- The layers of settings from the lowest up. -/
def layers (disk : Disk) (environment : List (String × String)) (path : Option String) :
    Except ConfigFault (List (List (String × Json))) := do
  let lowest ← optionalLayer disk defaultFile
  let named ← match path with
    | some name => do parseFile name (← readFile disk name)
    | none => pure []
  pure [lowest, named, environment.filterMap fun (name, value) => variableSetting? name value]

/-- Loads the configuration. -/
def load (disk : Disk) (environment : List (String × String)) (path : Option String) : Except LoadFault Config := do
  let layers ← (layers disk environment path).mapError .unreadable
  match layers.foldlM overlay? (.record []) with
  | none => throw .misplaced
  | some root =>
    let config ← (ofJson root).mapError .unreadable
    match config.validate with
    | .ok () => pure config
    | .error error => throw (.invalid error)

end Reindexing.Config
