/-!
# Decimal digits of whole numbers

Writing and reading whole numbers in base ten, with and without a fixed width.
Reading accepts ASCII digits only and says how a sign is treated.
-/
namespace Reindexing.Decimal

def digits (n : Nat) : List Char := Nat.toDigits 10 n

def ofNat (n : Nat) : String := String.ofList (digits n)

def ofInt (i : Int) : String :=
  match i with
  | .ofNat n => ofNat n
  | .negSucc n => "-" ++ ofNat (n + 1)

/-- At least `width` digits, with zeros in front. -/
def paddedDigits (width n : Nat) : List Char :=
  let ds := digits n
  List.replicate (width - ds.length) '0' ++ ds

def padded (width n : Nat) : String := String.ofList (paddedDigits width n)

def isDigit (c : Char) : Bool := decide ('0' ≤ c) && decide (c ≤ '9')

def digitValue (c : Char) : Nat := c.toNat - '0'.toNat

/-- The value of a list of digits. -/
def valueOf (ds : List Char) : Nat := ds.foldl (fun n c => 10 * n + digitValue c) 0

/-- A non-empty list of digits. -/
def readNat? (cs : List Char) : Option Nat :=
  if cs ≠ [] && cs.all isDigit then some (valueOf cs) else none

/-- Digits after an optional sign. -/
def readInt? : List Char → Option Int
  | '-' :: cs => (readNat? cs).map fun n => -(n : Int)
  | '+' :: cs => (readNat? cs).map fun n => (n : Int)
  | cs => (readNat? cs).map fun n => (n : Int)

/-- The run of digits at the front, and the rest. -/
def spanDigits (cs : List Char) : List Char × List Char := (cs.takeWhile isDigit, cs.dropWhile isDigit)

end Reindexing.Decimal
