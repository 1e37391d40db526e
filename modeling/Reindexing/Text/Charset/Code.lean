import Reindexing.Text.Utf8

/-!
# Codes of several bytes

In most character sets of many characters a byte outside of ASCII is the first of a
code. A set tells what to do with such a byte and what follows it; if the code makes
no sense, an ASCII byte at its end still stands for itself.
-/
namespace Reindexing.Text.Charset

/-- The characters that some bytes give, where `none` is a fault, and the bytes behind them. -/
abbrev Decoded := List (Option Char) × List UInt8

/-- How many characters a row of a table has. -/
def rowLength : Nat := 47

/-- The character at a place of a table. -/
def charAt? (rows : List String) (place : Nat) : Option Char :=
  ((rows[place / rowLength]?).bind fun row => row.toList[place % rowLength]?).filter (· ≠ ' ')

def isBetween (low high b : Nat) : Bool := low ≤ b && b ≤ high

/-- What a code gives whose last byte is `b`. -/
def codeOrFault (found : Option (List Char)) (b : UInt8) (rest : List UInt8) : Decoded :=
  match found with
  | some cs => (cs.map some, rest)
  | none => ([none], if b.toNat < 0x80 then b :: rest else rest)

/-- Reads bytes, where `read` gives what a byte outside of ASCII begins. -/
def decodeCodes (read : Nat → List UInt8 → Decoded) : Nat → List UInt8 → List (Option Char)
  | 0, _ | _, [] => []
  | fuel + 1, b :: rest =>
    if b.toNat < 0x80 then some (Char.ofNat b.toNat) :: decodeCodes read fuel rest
    else
      let (cs, rest) := read b.toNat rest
      cs ++ decodeCodes read fuel rest

end Reindexing.Text.Charset
