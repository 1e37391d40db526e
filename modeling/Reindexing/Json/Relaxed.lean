import Reindexing.Decimal.Nearest
import Reindexing.Json.Document
import Reindexing.Text.Blank
import Reindexing.Text.Letters
import Reindexing.Word

/-!
# Relaxed JSON

JSON as people write it by hand: with comments, keys without quotes, texts in
single quotes, commas behind the last item, and numbers with signs, in base
sixteen, or without digits on one side of the point. A whole number has 64 bits,
or 32 in base sixteen; a fraction must be finite unless it is called infinite.
-/
namespace Reindexing.Json.Relaxed

def isLineEnd (c : Char) : Bool := c = '\n' || c = '\r' || c.toNat = 0x2028 || c.toNat = 0x2029

/-- Blanks between tokens: separators, tabs, feeds, line ends and the byte order mark. -/
def isGap (c : Char) : Bool := (Text.isBlank c && c.toNat != 0x85) || c = '\ufeff'

/-- Passes over blanks and comments; a comment between stars must end. -/
def skip : Nat → List Char → List Char
  | 0, cs => cs
  | fuel + 1, cs =>
    match cs.dropWhile isGap with
    | '/' :: '/' :: rest => skip fuel (rest.dropWhile (!isLineEnd ·))
    | '/' :: '*' :: rest => skip fuel (afterStar rest)
    | rest => rest
where
  afterStar : List Char → List Char
    | '*' :: '/' :: rest => rest
    | _ :: rest => afterStar rest
    | [] => ['*']

def skipAll (cs : List Char) : List Char := skip (cs.length + 1) cs

/-! ## Texts and names -/

/-- A piece of a text: a character, or a code unit that an escape gives. -/
inductive Piece where
  | char (c : Char)
  | unit (n : Nat)
  deriving DecidableEq, Repr

/-- The characters of pieces; the two units of a pair stand next to each other. -/
def charsOf? : List Piece → Option (List Char)
  | [] => some []
  | .char c :: rest => (charsOf? rest).map (c :: ·)
  | .unit n :: .unit m :: rest =>
    if 0xd800 ≤ n && n ≤ 0xdbff then
      if 0xdc00 ≤ m && m ≤ 0xdfff then
        (charsOf? rest).map (Char.ofNat (0x10000 + (n - 0xd800) * 0x400 + (m - 0xdc00)) :: ·)
      else none
    else if 0xdc00 ≤ n && n ≤ 0xdfff then none
    else (charsOf? (.unit m :: rest)).map (Char.ofNat n :: ·)
  | .unit n :: rest => if 0xd800 ≤ n && n ≤ 0xdfff then none else (charsOf? rest).map (Char.ofNat n :: ·)

def hexNumber? (width : Nat) (cs : List Char) : Option (Nat × List Char) :=
  match (cs.take width).mapM hexValue? with
  | some ds => if ds.length = width then some (ds.foldl (fun n d => 16 * n + d) 0, cs.drop width) else none
  | none => none

/-- What the escape behind a backslash stands for; a line end stands for nothing. -/
def readEscape? (cs : List Char) : Option (List Piece × List Char) :=
  match cs with
  | 'b' :: rest => some ([.char '\x08'], rest)
  | 'f' :: rest => some ([.char '\x0c'], rest)
  | 'n' :: rest => some ([.char '\n'], rest)
  | 'r' :: rest => some ([.char '\r'], rest)
  | 't' :: rest => some ([.char '\t'], rest)
  | 'v' :: rest => some ([.char '\x0b'], rest)
  | '0' :: rest => some ([.char (Char.ofNat 0)], rest)
  | 'x' :: rest => (hexNumber? 2 rest).map fun (n, rest) => ([.char (Char.ofNat n)], rest)
  | 'u' :: rest => (hexNumber? 4 rest).map fun (n, rest) => ([.unit n], rest)
  | '\r' :: '\n' :: rest => some ([], rest)
  | c :: rest => if Decimal.isDigit c then none else if isLineEnd c then some ([], rest) else some ([.char c], rest)
  | [] => none

/-- Reads a text behind its opening quote; `done` holds its pieces in reverse. -/
def readPieces? (quote : Char) (done : List Piece) : Nat → List Char → Option (List Piece × List Char)
  | 0, _ => none
  | fuel + 1, cs =>
    match cs with
    | [] => none
    | '\\' :: rest => (readEscape? rest).bind fun (pieces, rest) => readPieces? quote (pieces.reverse ++ done) fuel rest
    | c :: rest =>
      if c = quote then some (done.reverse, rest)
      else if isLineEnd c then none
      else readPieces? quote (.char c :: done) fuel rest

def readText? (quote : Char) (cs : List Char) : Option (String × List Char) := do
  let (pieces, rest) ← readPieces? quote [] (cs.length + 1) cs
  some (String.ofList (← charsOf? pieces), rest)

def isNameStart (c : Char) : Bool := c = '$' || c = '_' || Text.inRanges Text.letterRanges c

def isNamePart (c : Char) : Bool := isNameStart c || Text.inRanges Text.nameMarkRanges c

/-- The pieces of a name; an escape may stand for any of its characters. -/
def takeName (isFirst : Bool) : Nat → List Char → List Piece × List Char
  | 0, cs => ([], cs)
  | fuel + 1, cs =>
    match cs with
    | '\\' :: 'u' :: rest =>
      match hexNumber? 4 rest with
      | some (n, rest) =>
        let (pieces, rest) := takeName false fuel rest
        (.unit n :: pieces, rest)
      | none => ([], cs)
    | c :: rest =>
      if if isFirst then isNameStart c else isNamePart c then
        let (pieces, rest) := takeName false fuel rest
        (.char c :: pieces, rest)
      else ([], cs)
    | [] => ([], [])

/-- Reads a key: a name, or a text in quotes. -/
def readKey? (cs : List Char) : Option (String × List Char) :=
  match cs with
  | '"' :: rest => readText? '"' rest
  | '\'' :: rest => readText? '\'' rest
  | cs =>
    let (pieces, rest) := takeName true cs.length cs
    if pieces.isEmpty then none else (charsOf? pieces).map fun name => (String.ofList name, rest)

/-! ## Numbers -/

/-- The digits of a whole number; a zero stands by itself. -/
def takeWhole : List Char → List Char
  | '0' :: _ => ['0']
  | cs => cs.takeWhile Decimal.isDigit

/-- An exponent with its digits. -/
def takeExponent : List Char → List Char
  | e :: rest =>
    let (sign, digits) := match rest with
      | '+' :: rest => (['+'], rest.takeWhile Decimal.isDigit)
      | '-' :: rest => (['-'], rest.takeWhile Decimal.isDigit)
      | rest => ([], rest.takeWhile Decimal.isDigit)
    if (e = 'e' || e = 'E') && !digits.isEmpty then e :: (sign ++ digits) else []
  | [] => []

/-- The longest number in base ten, without a sign. -/
def takeDecimal (cs : List Char) : List Char :=
  let whole := takeWhole cs
  let mantissa := match cs.drop whole.length with
    | '.' :: rest =>
      let places := rest.takeWhile Decimal.isDigit
      if whole.isEmpty && places.isEmpty then [] else whole ++ '.' :: places
    | _ => whole
  if mantissa.isEmpty then [] else mantissa ++ takeExponent (cs.drop mantissa.length)

/-- The word of a number, without a sign. -/
def takeNumeral (cs : List Char) : List Char :=
  let based := match cs with
    | '0' :: x :: rest =>
      let digits := rest.takeWhile fun c => (hexValue? c).isSome
      if (x = 'x' || x = 'X') && !digits.isEmpty then '0' :: x :: digits else []
    | _ => []
  let isWord (word : String) : Bool := word.toList.isPrefixOf cs
  if !based.isEmpty then based
  else if isWord "Infinity" then "Infinity".toList
  else if isWord "NaN" then "NaN".toList
  else takeDecimal cs

/-- The number that a word without its sign stands for. -/
def numberOf? (sign : Option Char) (word : List Char) : Option Number :=
  let signed (x : Float) : Number := .real (if sign = some '-' then -x else x).toBits
  match word with
  | '0' :: x :: digits =>
    if x = 'x' || x = 'X' then
      match sign, hexNumber? digits.length digits with
      | none, some (n, _) => if n ≤ Word.max32 then some (.int n) else none
      | _, _ => none
    else decimal? signed word
  | 'I' :: _ => if sign = some '+' then none else some (signed (1.0 / 0.0))
  | 'N' :: _ => if sign = some '+' then none else some (.real (0.0 / 0.0 : Float).toBits)
  | _ => decimal? signed word
where
  decimal? (signed : Float → Number) (word : List Char) : Option Number :=
    if word.all Decimal.isDigit then
      let i : Int := if sign = some '-' then -(Decimal.valueOf word : Int) else Decimal.valueOf word
      if Word.isInt64 i then some (.int i) else none
    else (Decimal.readFloat? word).bind fun x => if x.isInf then none else some (signed x)

def readNumber? (cs : List Char) : Option (Number × List Char) :=
  let (sign, cs) := match cs with
    | '+' :: rest => (some '+', rest)
    | '-' :: rest => (some '-', rest)
    | cs => (none, cs)
  let word := takeNumeral cs
  if word.isEmpty then none else (numberOf? sign word).map fun n => (n, cs.drop word.length)

/-! ## Values -/

mutual
def readValue? : Nat → List Char → Option (Json × List Char)
  | 0, _ => none
  | fuel + 1, cs =>
    match skipAll cs with
    | '{' :: rest => readFields? fuel [] rest
    | '[' :: rest => readItems? fuel [] rest
    | '"' :: rest => (readText? '"' rest).map fun (s, rest) => (.text s, rest)
    | '\'' :: rest => (readText? '\'' rest).map fun (s, rest) => (.text s, rest)
    | 'n' :: 'u' :: 'l' :: 'l' :: rest => some (.null, rest)
    | 't' :: 'r' :: 'u' :: 'e' :: rest => some (.bool true, rest)
    | 'f' :: 'a' :: 'l' :: 's' :: 'e' :: rest => some (.bool false, rest)
    | cs => (readNumber? cs).map fun (n, rest) => (.number n, rest)

/-- Reads the items of a list. -/
def readItems? : Nat → List Json → List Char → Option (Json × List Char)
  | 0, _, _ => none
  | fuel + 1, done, cs =>
    match skipAll cs with
    | ']' :: rest => some (.list done.reverse, rest)
    | cs =>
      match readValue? fuel cs with
      | none => none
      | some (item, rest) =>
        match skipAll rest with
        | ',' :: rest => readItems? fuel (item :: done) rest
        | ']' :: rest => some (.list (item :: done).reverse, rest)
        | _ => none

/-- Reads the fields of a record. -/
def readFields? : Nat → List (String × Json) → List Char → Option (Json × List Char)
  | 0, _, _ => none
  | fuel + 1, done, cs =>
    match skipAll cs with
    | '}' :: rest => some (.record done.reverse, rest)
    | cs => do
      let (key, rest) ← readKey? cs
      match skipAll rest with
      | ':' :: rest =>
        let (value, rest) ← readValue? fuel rest
        match skipAll rest with
        | ',' :: rest => readFields? fuel ((key, value) :: done) rest
        | '}' :: rest => some (.record ((key, value) :: done).reverse, rest)
        | _ => none
      | _ => none
end

/-- The value of a text, in normal form. -/
def ofText? (s : String) : Option Json :=
  let cs := s.toList
  match readValue? (2 * cs.length + 2) cs with
  | some (j, rest) => if (skipAll rest).isEmpty then some j.normal else none
  | none => none

end Reindexing.Json.Relaxed
