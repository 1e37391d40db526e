import Reindexing.Decimal.Digits
import Reindexing.Http.NameTable
import Reindexing.Http.Punycode
import Reindexing.Http.Target
import Reindexing.Text.Categories
import Reindexing.Text.Lowercase

/-!
# Hosts

A host is a name or a number. A name has labels between dots, is the same in any case,
and is written in ASCII. What ends like a number is one: four bytes, of which the last
part may stand for several. A number of sixteen bytes stands in brackets.
-/
namespace Reindexing.Http.Host

def isHexDigit (c : Char) : Bool := (Json.hexValue? c).isSome

/-- A part of a number of four bytes: in decimal, or behind `0x` or `0` in another base. -/
def readPart? (cs : List Char) : Option Nat :=
  let inBase (base : Nat) (cs : List Char) : Option Nat :=
    cs.foldlM (fun n c => ((Json.hexValue? c).filter (· < base)).map fun d => base * n + d) 0
  match cs with
  | [] => none
  | '0' :: 'x' :: rest | '0' :: 'X' :: rest => inBase 16 rest
  | '0' :: rest => inBase 8 rest
  | _ => inBase 10 cs

/-- The parts between dots; a dot at the end does not count. -/
def parts (cs : List Char) : List (List Char) :=
  let all := Text.splitAt (· == '.') cs
  if 1 < all.length && all.getLast? == some [] then all.dropLast else all

def endsInNumber (cs : List Char) : Bool :=
  match (parts cs).getLast? with
  | some last => (!last.isEmpty && last.all Decimal.isDigit) || (readPart? last).isSome
  | none => false

/-- The value of a number of four bytes. -/
def readNumber? (cs : List Char) : Option Nat := do
  let values ← (parts cs).mapM readPart?
  let last ← values.getLast?
  let firsts := values.dropLast
  if 4 < values.length || firsts.any (255 < ·) || Nat.pow 256 (4 - firsts.length) ≤ last then none
  else some (firsts.zipIdx.foldl (fun sum (n, i) => sum + n * Nat.pow 256 (3 - i)) last)

/-- Four bytes with dots between them. -/
def dotted (n : Nat) : String :=
  Text.join "." ([3, 2, 1, 0].map fun i => Decimal.ofNat (n / Nat.pow 256 i % 256))

/-- Four bytes in decimal, none with a needless zero. -/
def isDotted (cs : List Char) : Bool :=
  let isByte (part : List Char) : Bool :=
    part.all Decimal.isDigit && (part.length == 1 || part.head? != some '0') &&
      (Decimal.readNat? part).any (· < 256)
  let all := Text.splitAt (· == '.') cs
  all.length == 4 && all.all isByte

/-- How many pairs of bytes some groups between colons stand for; the last one may be dotted. -/
def pairs? (mayEndDotted : Bool) (cs : List Char) : Option Nat :=
  let isPair (group : List Char) : Bool := !group.isEmpty && decide (group.length ≤ 4) && group.all isHexDigit
  let groups := Text.splitAt (· == ':') cs
  if cs.isEmpty then some 0
  else if groups.all isPair then some groups.length
  else if mayEndDotted && groups.dropLast.all isPair && groups.getLast?.any isDotted then some (groups.length + 1)
  else none

/-- What stands before and after two colons. -/
def aroundGap? : List Char → Option (List Char × List Char)
  | ':' :: ':' :: rest => some ([], rest)
  | c :: rest => (aroundGap? rest).map fun (before, after) => (c :: before, after)
  | [] => none

/-- Whether a text is a number of sixteen bytes: eight pairs, or fewer around a gap. -/
def isLongNumber (cs : List Char) : Bool :=
  match aroundGap? cs with
  | none => pairs? true cs == some 8
  | some (before, after) =>
    match pairs? false before, pairs? true after with
    | some m, some n => m + n ≤ 7
    | _, _ => false

/-- Characters that no name of a host has. -/
def isForbidden (c : Char) : Bool :=
  c.toNat ≤ 0x20 || c.toNat == 0x7f || "#%/:<>?@[\\]^|".toList.contains c

/-- What a character of a name becomes: the same in lowercase, other characters, or nothing. -/
def nameChars (c : Char) : List Char :=
  if c.toNat < 0x80 then [c.toLower]
  else if Text.inRanges ignoredInNames c then []
  else
    match asciiForms.find? fun (lo, hi, _) => decide (lo ≤ c.toNat) && decide (c.toNat ≤ hi) with
    | some (lo, _, code) => [Char.ofNat (code + (c.toNat - lo))]
    | none =>
      match asciiWords.lookup c.toNat with
      | some word => word.toList
      | none => Text.lowercaseChar c

def isRefused (c : Char) : Bool := Text.inRanges refusedInNames c

/-- Whether the text of a label is well-formed: it does not start with a mark. -/
def isLabel (cs : List Char) : Bool :=
  !cs.head?.any (Text.inRanges Text.categoryMark) && !cs.any isRefused

/-- A label in ASCII. -/
def readLabel? (cs : List Char) : Option (List Char) :=
  match Text.dropPrefix? "xn--".toList cs with
  | some code =>
    let isText (text : List Char) : Bool :=
      isLabel text && text.any (fun c => !Punycode.isAscii c) && text.all fun c => nameChars c == [c]
    ((Punycode.decode? code).filter isText).map fun _ => cs
  | none =>
    if !isLabel cs then none
    else some (if cs.all Punycode.isAscii then cs else "xn--".toList ++ Punycode.encode cs)

/-- A name in ASCII; it may be percent-encoded. -/
def readName? (cs : List Char) : Option (List Char) :=
  let text := (Text.ofUtf8Lenient (percentDecode (Text.utf8 (String.ofList cs)))).toList
  if text.any isRefused then none
  else
    ((Text.splitAt (· == '.') (text.flatMap nameChars)).mapM readLabel?).bind fun labels =>
      let name := List.intercalate ['.'] labels
      if name.isEmpty || name.any isForbidden then none else some name

/-- What stands in brackets. -/
def inBrackets? (cs : List Char) : Option String :=
  if cs.getLast? == some ']' && isLongNumber (cs.drop 1).dropLast then
    some (String.ofList (cs.map Char.toLower))
  else none

/-- Reads the host of a server. -/
def ofText? (cs : List Char) : Option String :=
  if cs.head? == some '[' then inBrackets? cs
  else
    (readName? cs).bind fun name =>
      if endsInNumber name then (readNumber? name).map dotted else some (String.ofList name)

end Reindexing.Http.Host
