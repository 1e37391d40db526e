import Reindexing.Json.Document
import Reindexing.Json.Printer
import Reindexing.Word

/-!
# Decoding JSON

A decoder takes a document apart and fails with the first fault or mismatch it
meets. Where a document comes from matters in three ways only: a text has a
nesting limit, a list that is too long for its fields is malformed in a text
and a mismatch elsewhere, and a tagged value is collected before it is decoded.
-/
namespace Reindexing.Json

inductive DecodeError where
  | flaw (flaw : Flaw)
  /-- Well-formed, but not of the shape asked for. -/
  | mismatch
  /-- Of the right shape, but refused by a rule of the domain. -/
  | refused (reason : String)
  deriving DecidableEq, Repr

/-- The class of a failure: a text that ends early, a text that is no JSON, or a value that is not fit. -/
def DecodeError.category : DecodeError → String
  | .flaw .truncated => "eof"
  | .flaw .malformed => "syntax"
  | _ => "data"

/-- Where the document being decoded comes from. -/
inductive Origin where
  /-- Straight from a text, with the nesting that is still allowed. -/
  | text (depth : Nat)
  /-- From a text, but collected as a whole before decoding. -/
  | collected
  | value
  deriving DecidableEq, Repr

abbrev Decoder (α : Type) := Origin → Document → Except DecodeError α

def nestingLimit : Nat := 128

/-- The origin of what is inside a list or record. -/
def Origin.inside : Origin → Except DecodeError Origin
  | .text depth => if 1 < depth then .ok (.text (depth - 1)) else .error (.flaw .malformed)
  | origin => .ok origin

/-- The failure of a decoder that wants another kind of value than the document is. -/
def Document.mismatch : Document → DecodeError
  | .missing => .flaw .truncated
  | .broken flaw | .brokenText flaw => .flaw flaw
  | .hugeNumber | .unpaired _ => .flaw .malformed
  | _ => .mismatch

def Closing.check : Closing → Except DecodeError Unit
  | .faulty _ flaw => .error (.flaw flaw)
  | _ => .ok ()

mutual
/-- Passes over a value, which must be well-formed. -/
def Document.ignore : Document → Except DecodeError Unit
  | .missing => .error (.flaw .truncated)
  | .broken flaw | .brokenText flaw | .unpaired (some flaw) => .error (.flaw flaw)
  | .list items closing => do
    ignoreItems items
    closing.check
  | .record entries closing => do
    ignoreEntries entries
    closing.check
  | _ => .ok ()

def ignoreItems : List Document → Except DecodeError Unit
  | [] => .ok ()
  | d :: rest => do
    d.ignore
    ignoreItems rest

def ignoreEntries : List (Document × Document) → Except DecodeError Unit
  | [] => .ok ()
  | (k, d) :: rest => do
    k.ignore
    d.ignore
    ignoreEntries rest
end

def Document.asText : Document → Except DecodeError String
  | .text s => .ok s
  | d => .error d.mismatch

mutual
/-- The whole value, with repeated keys kept. -/
def Document.whole (origin : Origin) : Document → Except DecodeError Json
  | .null => .ok .null
  | .bool b => .ok (.bool b)
  | .number n => .ok (.number n)
  | .text s => .ok (.text s)
  | .list items closing => do
    let items ← wholeItems (← origin.inside) items
    closing.check
    pure (.list items)
  | .record entries closing => do
    let fields ← wholeEntries (← origin.inside) entries
    closing.check
    pure (.record fields)
  | .missing => .error (.flaw .truncated)
  | .broken flaw | .brokenText flaw => .error (.flaw flaw)
  | .hugeNumber | .unpaired _ => .error (.flaw .malformed)

def wholeItems (origin : Origin) : List Document → Except DecodeError (List Json)
  | [] => .ok []
  | d :: rest => do
    let j ← d.whole origin
    pure (j :: (← wholeItems origin rest))

def wholeEntries (origin : Origin) : List (Document × Document) → Except DecodeError (List (String × Json))
  | [] => .ok []
  | (k, d) :: rest => do
    let key ← k.asText
    let j ← d.whole origin
    pure ((key, j) :: (← wholeEntries origin rest))
end

namespace Decode

def text : Decoder String := fun _ d => d.asText

def bool : Decoder Bool
  | _, .bool b => .ok b
  | _, d => .error d.mismatch

/-- Whole numbers up to `max`. -/
def nat (max : Nat) : Decoder Nat
  | _, .number (.int (.ofNat n)) => if n ≤ max then .ok n else .error .mismatch
  | _, d => .error d.mismatch

/-- Integers of 64 bits. -/
def int64 : Decoder Int
  | _, .number (.int i) => if Word.isInt64 i then .ok i else .error .mismatch
  | _, d => .error d.mismatch

def optional (decoder : Decoder α) : Decoder (Option α)
  | _, .null => .ok none
  | origin, d => (decoder origin d).map some

def all (decoder : Decoder α) (origin : Origin) : List Document → Except DecodeError (List α)
  | [] => .ok []
  | d :: rest => do
    let a ← decoder origin d
    pure (a :: (← all decoder origin rest))

def list (decoder : Decoder α) : Decoder (List α)
  | origin, .list items closing => do
    let values ← all decoder (← origin.inside) items
    closing.check
    pure values
  | _, d => .error d.mismatch

/-- Any value, in normal form. -/
def anything : Decoder Json := fun origin d => (d.whole origin).map Json.normal

/-- A record of any values; the last value of a repeated key wins. -/
def anyRecord : Decoder (List (String × Json))
  | origin, .record entries closing => do
    let fields ← wholeEntries (← origin.inside) entries
    closing.check
    match Json.normal (.record fields) with
    | .record fields => pure fields
    | _ => pure []
  | _, d => .error d.mismatch

/-- Decodes text further. -/
def refine (f : String → Except DecodeError α) : Decoder α := fun _ d => d.asText >>= f

/-- Collects the value as a whole before decoding it. -/
def collected (decoder : Decoder α) : Decoder α := fun origin d => do
  let j ← d.whole origin
  decoder (match origin with | .text _ => .collected | o => o) (Document.ofJson j)

def lookup (choices : List (String × α)) (name : String) : Except DecodeError α :=
  match choices.find? (·.1 == name) with
  | some (_, a) => .ok a
  | none => .error .mismatch

/-- The payload of a choice without one. -/
def emptyPayload (origin : Origin) : Document → Except DecodeError Unit
  | .null => .ok ()
  | .record [] .closed => if origin = .collected then .ok () else .error .mismatch
  | d => .error d.mismatch

/-- One of several names, also as the only key of a record with a `null` under it. -/
def choice (choices : List (String × α)) : Decoder α := fun origin d =>
  match origin, d with
  | _, .text name => lookup choices name
  | .text _, .record [] closing => do
    let _ ← origin.inside
    match closing with
    | .faulty _ flaw => .error (.flaw flaw)
    | _ => .error (.flaw .malformed)
  | .text _, .record ((key, value) :: rest) closing => do
    let _ ← origin.inside
    let a ← lookup choices (← key.asText)
    emptyPayload origin value
    match rest, closing with
    | [], .faulty false flaw => .error (.flaw flaw)
    | [], .closed => pure a
    | _, _ => .error (.flaw .malformed)
  | .text _, .missing => .error (.flaw .truncated)
  | .text _, .brokenText flaw => .error (.flaw flaw)
  | .text _, _ => .error (.flaw .malformed)
  | _, .record [(key, value)] _ => do
    let a ← lookup choices (← key.asText)
    emptyPayload origin value
    pure a
  | _, _ => .error .mismatch

end Decode

/-- Decodes a text; nothing but blanks may follow the value. -/
def decodeText (decoder : Decoder α) (text : String) : Except DecodeError α := do
  let (d, rest) := Document.read text
  let a ← decoder (.text nestingLimit) d
  if (rest.map skipSpace).getD [] = [] then pure a else .error (.flaw .malformed)

def decodeValue (decoder : Decoder α) (j : Json) : Except DecodeError α :=
  decoder .value (Document.ofJson j)

/-- The value of a text, in normal form. -/
def ofText (text : String) : Except DecodeError Json := decodeText Decode.anything text

end Reindexing.Json
