/-!
# JSON values

A JSON value with integers kept apart from floating point numbers. A record is
a list of fields in the order they are written, so that a printed text has a
definite field order; `normal` is the form in which keys are sorted and the
last field of a repeated key wins.
-/
namespace Reindexing

/-- A number is an integer, or a double given by its bits. -/
inductive Number where
  | int (value : Int)
  | real (bits : UInt64)
  deriving DecidableEq, Repr

inductive Json where
  | null
  | bool (value : Bool)
  | number (value : Number)
  | text (value : String)
  | list (items : List Json)
  | record (fields : List (String × Json))
  deriving Repr, Inhabited

namespace Json

mutual
/-- Decides equality of values; fields are compared in order. -/
def decEq : (a b : Json) → Decidable (a = b)
  | .null, .null => .isTrue rfl
  | .bool a, .bool b => decidable_of_iff (a = b) (by simp)
  | .number a, .number b => decidable_of_iff (a = b) (by simp)
  | .text a, .text b => decidable_of_iff (a = b) (by simp)
  | .list a, .list b => @decidable_of_iff _ (a = b) (by simp) (decEqList a b)
  | .record a, .record b => @decidable_of_iff _ (a = b) (by simp) (decEqFields a b)
  | .null, .bool _ | .null, .number _ | .null, .text _ | .null, .list _ | .null, .record _
  | .bool _, .null | .bool _, .number _ | .bool _, .text _ | .bool _, .list _ | .bool _, .record _
  | .number _, .null | .number _, .bool _ | .number _, .text _ | .number _, .list _
  | .number _, .record _ | .text _, .null | .text _, .bool _ | .text _, .number _ | .text _, .list _
  | .text _, .record _ | .list _, .null | .list _, .bool _ | .list _, .number _ | .list _, .text _
  | .list _, .record _ | .record _, .null | .record _, .bool _ | .record _, .number _
  | .record _, .text _ | .record _, .list _ => .isFalse (by simp)

def decEqList : (a b : List Json) → Decidable (a = b)
  | [], [] => .isTrue rfl
  | [], _ :: _ | _ :: _, [] => .isFalse (by simp)
  | a :: as, b :: bs =>
    match decEq a b, decEqList as bs with
    | .isTrue h, .isTrue hs => .isTrue (by rw [h, hs])
    | .isFalse h, _ => .isFalse (by simp [h])
    | _, .isFalse hs => .isFalse (by simp [hs])

def decEqFields : (a b : List (String × Json)) → Decidable (a = b)
  | [], [] => .isTrue rfl
  | [], _ :: _ | _ :: _, [] => .isFalse (by simp)
  | (k, a) :: as, (l, b) :: bs =>
    if hk : k = l then
      match decEq a b, decEqFields as bs with
      | .isTrue h, .isTrue hs => .isTrue (by rw [hk, h, hs])
      | .isFalse h, _ => .isFalse (by simp [h])
      | _, .isFalse hs => .isFalse (by simp [hs])
    else .isFalse (by simp [hk])
end

instance : DecidableEq Json := decEq

def int (i : Int) : Json := .number (.int i)

def nat (n : Nat) : Json := .number (.int n)

/-- The value of a field; of several fields with this key, the first. -/
def field? (key : String) : Json → Option Json
  | .record fields => (fields.find? (·.1 == key)).map (·.2)
  | _ => none

/-- A missing field reads as `null`. -/
def field (key : String) (j : Json) : Json := (j.field? key).getD .null

def text? : Json → Option String
  | .text s => some s
  | _ => none

def list? : Json → Option (List Json)
  | .list items => some items
  | _ => none

def record? : Json → Option (List (String × Json))
  | .record fields => some fields
  | _ => none

def bool? : Json → Option Bool
  | .bool b => some b
  | _ => none

def int? : Json → Option Int
  | .number (.int i) => some i
  | _ => none

def isNull (j : Json) : Bool := j == .null

/-- Puts a field into sorted fields, in place of one with the same key. -/
def putSorted (key : String) (value : Json) : List (String × Json) → List (String × Json)
  | [] => [(key, value)]
  | (k, v) :: rest =>
    if key = k then (key, value) :: rest
    else if key < k then (key, value) :: (k, v) :: rest
    else (k, v) :: putSorted key value rest

mutual
/-- Sorts the fields of every record; the last field of a repeated key wins. -/
def normal : Json → Json
  | .list items => .list (normalList items)
  | .record fields => .record (normalFields [] fields)
  | j => j

def normalList : List Json → List Json
  | [] => []
  | j :: rest => normal j :: normalList rest

def normalFields (done : List (String × Json)) : List (String × Json) → List (String × Json)
  | [] => done
  | (k, v) :: rest => normalFields (putSorted k (normal v) done) rest
end

end Json

end Reindexing
