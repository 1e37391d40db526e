import Reindexing.Json.Document
import Reindexing.Text.Search

/-!
# Universally unique identifiers

An identifier is a number of 128 bits. It is written as 32 hexadecimal digits in
five groups; it is also read without hyphens, in braces, and behind `urn:uuid:`.
Tasks and queue entries have identifiers of types of their own.
-/
namespace Reindexing

/-- How many identifiers there are. -/
def Uuid.count : Nat := 0x100000000000000000000000000000000

structure Uuid where
  value : Nat
  isLt : value < Uuid.count
  deriving DecidableEq

namespace Uuid

instance : Repr Uuid := ⟨fun u _ => repr u.value⟩

def ofNat (n : Nat) : Uuid := ⟨n % count, Nat.mod_lt _ (by decide)⟩

def nil : Uuid := ofNat 0

instance : Inhabited Uuid := ⟨nil⟩

def hexChars (u : Uuid) : List Char :=
  let ds := Nat.toDigits 16 u.value
  List.replicate (32 - ds.length) '0' ++ ds

def toText (u : Uuid) : String :=
  let ds := u.hexChars
  String.ofList (ds.take 8 ++ '-' :: (ds.drop 8).take 4 ++ '-' :: (ds.drop 12).take 4 ++
    '-' :: (ds.drop 16).take 4 ++ '-' :: ds.drop 20)

/-- The number of 32 hexadecimal digits. -/
def ofHex? (cs : List Char) : Option Uuid :=
  if cs.length = 32 then (cs.mapM Json.hexValue?).map fun ds => ofNat (ds.foldl (fun n d => 16 * n + d) 0)
  else none

/-- Five groups of digits with hyphens between them. -/
def ofGroups? (cs : List Char) : Option Uuid :=
  if cs.length = 36 && [8, 13, 18, 23].all (fun i => cs[i]? == some '-') then
    ofHex? (cs.take 8 ++ (cs.drop 9).take 4 ++ (cs.drop 14).take 4 ++ (cs.drop 19).take 4 ++ cs.drop 24)
  else none

/-- Reads an identifier in any of its forms. -/
def ofText? (s : String) : Option Uuid :=
  let cs := s.toList
  if cs.length = 32 then ofHex? cs
  else if cs.length = 36 then ofGroups? cs
  else if cs.length = 38 && cs.head? == some '{' && cs.getLast? == some '}' then
    ofGroups? ((cs.drop 1).take 36)
  else if cs.length = 45 && (cs.take 9).map Char.toLower == "urn:uuid:".toList then ofGroups? (cs.drop 9)
  else none

/-- Why a text is no identifier. -/
inductive Fault where
  | character (found : Char) (index : Nat)
  | length (found : Nat)
  | groupCount (found : Nat)
  | groupLength (group expected found : Nat)
  deriving DecidableEq, Repr

def Fault.message : Fault → String
  | .character c index => "invalid character: found \x60" ++ String.ofList [c] ++ "\x60 at " ++ Decimal.ofNat index
  | .length n => "invalid length: found " ++ Decimal.ofNat n
  | .groupCount n => "invalid group count: expected 5, found " ++ Decimal.ofNat n
  | .groupLength group expected n =>
    "invalid group length in group " ++ Decimal.ofNat group ++ ": expected " ++ Decimal.ofNat expected ++
      ", found " ++ Decimal.ofNat n

/-- The digits and hyphens of a text, and whether they stand in braces or behind a prefix. -/
def digitsOf (cs : List Char) : List Char × Bool :=
  if cs.head? = some '{' && cs.getLast? = some '}' && 2 ≤ cs.length then ((cs.drop 1).dropLast, true)
  else if (cs.take 9).map Char.toLower = "urn:uuid:".toList then (cs.drop 9, true)
  else (cs, false)

/-- The first group that does not end where it has to, given where the groups start and end. -/
def wrongGroup (size : Nat) : Nat → List Nat → List (List Char) → Fault
  | group, expected :: lengths, found :: next :: rest =>
    if found.length = expected then wrongGroup size (group + 1) lengths (next :: rest)
    else .groupLength group expected found.length
  | group, expected :: _, _ => .groupLength group expected (size - 24)
  | _, _, _ => .length size

/--
What is wrong with a text that is no identifier. A text that is longer than any form is not looked
at any further; the last group is counted with all that surrounds the digits.
-/
def faultOf (s : String) : Fault :=
  let size := s.utf8ByteSize
  if 45 < size then .length size
  else
    let (cs, isWrapped) := digitsOf s.toList
    let isOdd (c : Char) : Bool := c != '-' && (Json.hexValue? c).isNone
    match cs.find? isOdd with
    | some c => .character c (String.ofList (cs.takeWhile (!isOdd ·))).utf8ByteSize
    | none =>
      let groups := Text.splitAt (· == '-') cs
      if groups.length = 1 && !isWrapped && size ≠ 36 then .length size
      else if groups.length ≠ 5 then .groupCount groups.length
      else wrongGroup size 0 [8, 4, 4, 4, 12] groups

end Uuid

/-- The identifier of a task. -/
structure TaskId where
  uuid : Uuid
  deriving DecidableEq, Repr, Inhabited

/-- The identifier of a queue entry. -/
structure EntryId where
  uuid : Uuid
  deriving DecidableEq, Repr, Inhabited

def TaskId.toText (id : TaskId) : String := id.uuid.toText

def EntryId.toText (id : EntryId) : String := id.uuid.toText

end Reindexing
