import Reindexing.Json.Decoder

/-!
# Record layouts

A layout lists the fields of a record type in order, and gives both its written
form and its decoder. A record may also be given as the list of its fields in
order. Unknown fields are passed over, a repeated field is a mismatch, and a
missing one is a mismatch unless it has a value for its absence.
-/
namespace Reindexing.Json

/-- The written form of a type and its decoder. -/
structure Codec (α : Type) where
  write : α → Json
  read : Decoder α

structure Field (α : Type) where
  name : String
  /-- `none` leaves the field out. -/
  write : α → Option Json
  read : Decoder α
  /-- The value when a record lacks the field. -/
  absent : Option α
  /-- The value when a list ends before the field. -/
  absentInList : Option α

namespace Field

def required (name : String) (codec : Codec α) : Field α :=
  ⟨name, fun a => some (codec.write a), codec.read, none, none⟩

/-- A field that is left out and may be missing when there is no value. -/
def optional (name : String) (codec : Codec α) : Field (Option α) :=
  ⟨name, fun a => a.map codec.write, Decode.optional codec.read, some none, some none⟩

/-- An optional field that the list form must have. -/
def optionalInRecord (name : String) (codec : Codec α) : Field (Option α) :=
  ⟨name, fun a => a.map codec.write, Decode.optional codec.read, some none, none⟩

/-- A field that is written as `null` when there is no value, and may be missing. -/
def nullable (name : String) (codec : Codec α) : Field (Option α) :=
  ⟨name, fun a => some ((a.map codec.write).getD .null), Decode.optional codec.read, some none, some none⟩

/-- A field that is always written and may be missing. -/
def withDefault (name : String) (codec : Codec α) (default : α) : Field α :=
  ⟨name, fun a => some (codec.write a), codec.read, some default, some default⟩

end Field

/-- The fields of a record. The values are collected in nested pairs of type `α`, and
what has been read of them so far in nested pairs of type `σ`. -/
inductive Layout : Type → Type → Type 1 where
  | done : Layout Unit Unit
  | field {α β σ : Type} (first : Field α) (rest : Layout β σ) : Layout (α × β) (Option α × σ)

namespace Layout

/-- Nothing has been read yet. -/
def empty : {α σ : Type} → Layout α σ → σ
  | _, _, .done => ()
  | _, _, .field _ rest => (none, rest.empty)

/-- Reads the value of one entry into its slot; `none` when the key is unknown. -/
def feed (origin : Origin) (key : String) (value : Document) :
    {α σ : Type} → Layout α σ → σ → Option (Except DecodeError σ)
  | _, _, .done, _ => none
  | _, _, .field first rest, (slot, slots) =>
    if key = first.name then
      match slot with
      | some _ => some (.error .mismatch)
      | none => some ((first.read origin value).map fun a => (some a, slots))
    else (rest.feed origin key value slots).map fun r => r.map fun slots => (slot, slots)

def finish : {α σ : Type} → Layout α σ → σ → Except DecodeError α
  | _, _, .done, _ => .ok ()
  | _, _, .field first rest, (slot, slots) => do
    let a ← match slot, first.absent with
      | some a, _ => pure a
      | none, some a => pure a
      | none, none => .error .mismatch
    pure (a, ← rest.finish slots)

def readEntries (layout : Layout α σ) (origin : Origin) (slots : σ) :
    List (Document × Document) → Except DecodeError σ
  | [] => .ok slots
  | (key, value) :: rest => do
    let name ← key.asText
    match layout.feed origin name value slots with
    | some result => layout.readEntries origin (← result) rest
    | none => do
      value.ignore
      layout.readEntries origin slots rest

/-- What may follow the last field of the list form. -/
def checkListEnd (origin : Origin) (rest : List Document) (closing : Closing) : Except DecodeError Unit :=
  match origin, rest, closing with
  | .text _, _ :: _, _ => .error (.flaw .malformed)
  | _, _ :: _, _ => .error .mismatch
  | _, [], .faulty true _ => .error (.flaw .malformed)
  | _, [], .faulty false flaw => .error (.flaw flaw)
  | _, [], _ => .ok ()

def readList (origin : Origin) (closing : Closing) :
    {α σ : Type} → Layout α σ → List Document → Except DecodeError α
  | _, _, .done, items => checkListEnd origin items closing
  | _, _, .field first rest, [] => do
    closing.check
    match first.absentInList with
    | some a => pure (a, ← rest.readList origin closing [])
    | none => .error .mismatch
  | _, _, .field first rest, d :: items => do
    let a ← first.read origin d
    pure (a, ← rest.readList origin closing items)

/-- Reads the entries of a record. -/
def readRecord (layout : Layout α σ) (origin : Origin) (entries : List (Document × Document))
    (closing : Closing) : Except DecodeError α := do
  let slots ← layout.readEntries origin layout.empty entries
  closing.check
  layout.finish slots

/-- Reads a record, or the list of its fields. -/
def read (layout : Layout α σ) : Decoder α
  | origin, .record entries closing => do layout.readRecord (← origin.inside) entries closing
  | origin, .list items closing => do layout.readList (← origin.inside) closing items
  | _, d => .error d.mismatch

/-- The fields of a value in order, without those that are left out. -/
def write : {α σ : Type} → Layout α σ → α → List (String × Json)
  | _, _, .done, _ => []
  | _, _, .field first rest, (a, b) =>
    match first.write a with
    | some j => (first.name, j) :: rest.write b
    | none => rest.write b

/-- The names of the fields in order. -/
def names : {α σ : Type} → Layout α σ → List String
  | _, _, .done => []
  | _, _, .field first rest => first.name :: rest.names

end Layout

/-- The codec of a record type, whose values correspond to the nested pairs of a layout. -/
def Codec.ofLayout (layout : Layout α σ) (toPairs : β → α) (ofPairs : α → β) : Codec β :=
  ⟨fun b => .record (layout.write (toPairs b)), fun origin d => (layout.read origin d).map ofPairs⟩

end Reindexing.Json
