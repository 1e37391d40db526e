import Reindexing.Decimal.Layout
import Reindexing.Json.Value

/-!
# Writing JSON

Compact text has no blanks; indented text puts each item on its own line with
two blanks for each level. Control characters are escaped, by their short form
where they have one; other characters stand for themselves unless the text must
be ASCII.
-/
namespace Reindexing.Json

/-- Numbers are written positionally from `10 ^ -5` to below `10 ^ 16`; a value that is no number reads `null`. -/
def realFormat : Decimal.Format := ⟨some (-5), some 15, true, true, "null", "null", "null"⟩

def hexDigits (width n : Nat) : List Char :=
  let ds := Nat.toDigits 16 n
  List.replicate (width - ds.length) '0' ++ ds

/-- One UTF-16 unit as an escape. -/
def escapeUnit (n : Nat) : List Char := '\\' :: 'u' :: hexDigits 4 n

/-- The written form of one character of a text. -/
def escapeChar (ascii : Bool) (c : Char) : List Char :=
  if c = '"' then ['\\', '"']
  else if c = '\\' then ['\\', '\\']
  else if c = '\n' then ['\\', 'n']
  else if c = '\r' then ['\\', 'r']
  else if c = '\t' then ['\\', 't']
  else if c = '\x08' then ['\\', 'b']
  else if c = '\x0c' then ['\\', 'f']
  else if c.toNat < 0x20 then escapeUnit c.toNat
  else if ascii && decide (0x7f ≤ c.toNat) then
    if c.toNat < 0x10000 then escapeUnit c.toNat
    else escapeUnit (0xd800 + (c.toNat - 0x10000) / 0x400) ++ escapeUnit (0xdc00 + (c.toNat - 0x10000) % 0x400)
  else [c]

def quoteChars (ascii : Bool) (s : String) : List Char :=
  '"' :: (s.toList.flatMap (escapeChar ascii) ++ ['"'])

def numberChars : Number → List Char
  | .int i => (Decimal.ofInt i).toList
  | .real bits => (Decimal.write realFormat bits).toList

mutual
def compactChars (ascii : Bool) : Json → List Char
  | .null => "null".toList
  | .bool true => "true".toList
  | .bool false => "false".toList
  | .number n => numberChars n
  | .text s => quoteChars ascii s
  | .list [] => ['[', ']']
  | .list (j :: rest) => '[' :: (compactChars ascii j ++ compactItems ascii rest)
  | .record [] => ['{', '}']
  | .record ((k, j) :: rest) =>
    '{' :: (quoteChars ascii k ++ ':' :: (compactChars ascii j ++ compactFields ascii rest))

/-- The items after the first, and the closing bracket. -/
def compactItems (ascii : Bool) : List Json → List Char
  | [] => [']']
  | j :: rest => ',' :: (compactChars ascii j ++ compactItems ascii rest)

def compactFields (ascii : Bool) : List (String × Json) → List Char
  | [] => ['}']
  | (k, j) :: rest =>
    ',' :: (quoteChars ascii k ++ ':' :: (compactChars ascii j ++ compactFields ascii rest))
end

/-- The text of a value without blanks. -/
def compact (j : Json) : String := String.ofList (compactChars false j)

/-- The text of a value without blanks and with ASCII characters only. -/
def compactAscii (j : Json) : String := String.ofList (compactChars true j)

def lineBreak (depth : Nat) : List Char := '\n' :: List.replicate (2 * depth) ' '

mutual
def indentedChars (depth : Nat) : Json → List Char
  | .list (j :: rest) =>
    '[' :: (lineBreak (depth + 1) ++ indentedChars (depth + 1) j ++ indentedItems depth rest)
  | .record ((k, j) :: rest) =>
    '{' :: (lineBreak (depth + 1) ++ quoteChars false k ++ ':' :: ' ' ::
      (indentedChars (depth + 1) j ++ indentedFields depth rest))
  | j => compactChars false j

def indentedItems (depth : Nat) : List Json → List Char
  | [] => lineBreak depth ++ [']']
  | j :: rest => ',' :: (lineBreak (depth + 1) ++ indentedChars (depth + 1) j ++ indentedItems depth rest)

def indentedFields (depth : Nat) : List (String × Json) → List Char
  | [] => lineBreak depth ++ ['}']
  | (k, j) :: rest =>
    ',' :: (lineBreak (depth + 1) ++ quoteChars false k ++ ':' :: ' ' ::
      (indentedChars (depth + 1) j ++ indentedFields depth rest))
end

/-- The text of a value on several lines. -/
def indented (j : Json) : String := String.ofList (indentedChars 0 j)

end Reindexing.Json
