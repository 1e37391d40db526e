import Reindexing.Json.Layout
import Reindexing.Queue.Mutation
import Reindexing.Word

/-!
# Wire forms of choices and simple values

A choice without a payload is written as its name. A tagged choice is a record
whose tag field names the choice beside the choice's own fields, or a list that
starts with the name; it is collected as a whole before the choice is known.
Identifiers and instants are texts, states are their names, and a scope is the
text `all` or the list of its keys. A scope is read from a text or from a list
of texts, and is refused on the wire for the same reasons as elsewhere.
-/
namespace Reindexing.Wire

open Json

/-! ### Choices -/

/-- The codec of finitely many values with names. -/
def choice (name : α → String) (every : List α) : Codec α :=
  ⟨fun a => .text (name a), Decode.choice (every.map fun a => (name a, a))⟩

/-- The choice that a tag names. -/
abbrev Choices (α : Type) := List (String × Decoder α)

/-- The entries other than the tag, each collected, and the choice that the tag names. -/
def collectTagged (tag : String) (choices : Choices α) (origin : Origin) (found : Option (Decoder α)) :
    List (Document × Document) → Except DecodeError (Option (Decoder α) × List (String × Json))
  | [] => .ok (found, [])
  | (key, value) :: rest => do
    let name ← key.asText
    if name = tag then
      match found with
      | some _ => .error .mismatch
      | none => collectTagged tag choices origin (some (← Decode.lookup choices (← value.asText))) rest
    else
      let j ← value.whole origin
      let (found, fields) ← collectTagged tag choices origin found rest
      pure (found, (name, j) :: fields)

def insideOf (origin : Origin) : Origin :=
  match origin with
  | .text _ => .collected
  | o => o

/-- Reads a tagged choice. -/
def readTagged (tag : String) (choices : Choices α) : Decoder α
  | origin, .record entries closing => do
    let (found, fields) ← collectTagged tag choices (← origin.inside) none entries
    closing.check
    match found with
    | some read => read (insideOf origin) (Document.ofJson (.record fields))
    | none => .error .mismatch
  | origin, .list items closing => do
    let inside ← origin.inside
    match items with
    | [] => do
      closing.check
      .error .mismatch
    | first :: rest => do
      let read ← Decode.lookup choices (← first.asText)
      let values ← wholeItems inside rest
      closing.check
      read (insideOf origin) (Document.ofJson (.list values))
  | _, d => .error d.mismatch

/-! ### Simple values -/

def text : Codec String := ⟨.text, Decode.text⟩

def bool : Codec Bool := ⟨.bool, Decode.bool⟩

/-- Whole numbers of 64 bits. -/
def word : Codec Nat := ⟨.nat, Decode.nat Word.max64⟩

/-- Whole numbers of 32 bits. -/
def count : Codec Nat := ⟨.nat, Decode.nat Word.max32⟩

def integer : Codec Int := ⟨.int, Decode.int64⟩

def list (codec : Codec α) : Codec (List α) := ⟨fun as => .list (as.map codec.write), Decode.list codec.read⟩

/-- Texts that stand for the values of a type. -/
def viaText (toText : α → String) (ofText? : String → Option α) : Codec α :=
  ⟨fun a => .text (toText a), Decode.refine fun s =>
    match ofText? s with
    | some a => .ok a
    | none => .error .mismatch⟩

def instant : Codec Instant := viaText Instant.toText Time.readLoose?

def taskId : Codec TaskId := viaText TaskId.toText fun s => (Uuid.ofText? s).map .mk

def entryId : Codec EntryId := viaText EntryId.toText fun s => (Uuid.ofText? s).map .mk

def taskStatus : Codec TaskStatus := choice TaskStatus.name TaskStatus.every

def queueStatus : Codec QueueStatus := choice QueueStatus.name QueueStatus.every

def retryMode : Codec RetryMode := choice RetryMode.name RetryMode.every

def retryState : Codec RetryState := choice RetryState.name RetryState.every

def mutationKind : Codec MutationKind := choice MutationKind.name MutationKind.every

def changeKind : Codec ChangeKind := choice ChangeKind.name ChangeKind.every

/-- A scope as a caller gives it. -/
inductive ScopeInput where
  | keyword (word : String)
  | several (keys : List String)
  deriving DecidableEq, Repr

def ScopeInput.toKeys : ScopeInput → List String
  | .keyword word => [word]
  | .several keys => keys

def ScopeInput.toJson : ScopeInput → Json
  | .keyword word => .text word
  | .several keys => .list (keys.map .text)

/-- A text or a list of texts. -/
def ScopeInput.ofJson? : Json → Option ScopeInput
  | .text word => some (.keyword word)
  | .list items => (items.mapM Json.text?).map .several
  | _ => none

def scopeInput : Codec ScopeInput :=
  ⟨ScopeInput.toJson, fun origin d => do
    match ScopeInput.ofJson? (← d.whole origin) with
    | some input => pure input
    | none => .error .mismatch⟩

def scopeToJson : Scope → Json
  | .all => .text Scope.keyword
  | .sources keys => .list (keys.map .text)

/-- The text by which errors report an invalid scope. -/
def scopeReason (r : Scope.Refusal) : String := "[InvalidScope] Invalid scope: " ++ r.message

def scope : Codec Scope :=
  ⟨scopeToJson, fun origin d => do
    match Scope.ofKeys (← scopeInput.read origin d).toKeys with
    | .ok scope => pure scope
    | .error r => .error (.refused (scopeReason r))⟩

end Reindexing.Wire
