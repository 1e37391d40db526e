import Reindexing.Text.Blank

/-!
# Searching and splitting text

Substring search, replacement of every occurrence from left to right, and
splitting at a separator. Positions are code points; occurrences do not
overlap.
-/
namespace Reindexing.Text

/-- What follows `pattern` when the list starts with it. -/
def dropPrefix? (pattern : List Char) (cs : List Char) : Option (List Char) :=
  match pattern, cs with
  | [], cs => some cs
  | _ :: _, [] => none
  | p :: ps, c :: rest => if p = c then dropPrefix? ps rest else none

def containsChars (pattern : List Char) : List Char → Bool
  | [] => pattern.isEmpty
  | c :: rest => pattern.isPrefixOf (c :: rest) || containsChars pattern rest

def contains (text pattern : String) : Bool := containsChars pattern.toList text.toList

/-- Replaces the occurrences of a non-empty pattern; `skip` characters belong to the last one. -/
def replaceChars (pattern value : List Char) : Nat → List Char → List Char
  | _, [] => []
  | skip + 1, _ :: rest => replaceChars pattern value skip rest
  | 0, c :: rest =>
    if pattern.isPrefixOf (c :: rest) then
      value ++ replaceChars pattern value (pattern.length - 1) rest
    else c :: replaceChars pattern value 0 rest

/-- Replaces every occurrence of the non-empty `pattern`. -/
def replaceAll (text pattern value : String) : String :=
  String.ofList (replaceChars pattern.toList value.toList 0 text.toList)

/-- The parts between separators; there is always at least one part. -/
def splitAt (sep : Char → Bool) : List Char → List (List Char)
  | [] => [[]]
  | c :: rest =>
    if sep c then [] :: splitAt sep rest
    else
      match splitAt sep rest with
      | part :: parts => (c :: part) :: parts
      | [] => [[c]]

/-- A line without the carriage return before its line end. -/
def dropReturn (line : List Char) : List Char :=
  if line.getLast? = some '\r' then line.dropLast else line

/-- The lines of a text. A text that ends with a line end has no further line, and
a carriage return belongs to the line end it stands before. -/
def lines (text : String) : List String :=
  let parts := splitAt (· == '\n') text.toList
  let ended := (parts.dropLast.map dropReturn).map String.ofList
  match parts.getLast? with
  | some (c :: rest) => ended ++ [String.ofList (c :: rest)]
  | _ => ended

/-- Splits at the first occurrence of a character. -/
def splitFirst (sep : Char) (cs : List Char) : Option (List Char × List Char) :=
  match cs.dropWhile (· != sep) with
  | [] => none
  | _ :: rest => some (cs.takeWhile (· != sep), rest)

/-- The items of a list with commas, trimmed and without the blank ones. -/
def commaList (s : String) : List String :=
  ((splitAt (· == ',') s.toList).map fun part => String.ofList (trimChars part)).filter (· ≠ "")

/-- Joins texts with a separator between neighbours. -/
def join (sep : String) (parts : List String) : String := sep.intercalate parts

end Reindexing.Text
