import Reindexing.Decimal.Nearest
import Reindexing.Json.Document
import Reindexing.Word

/-!
# RON

A notation in which values have named fields in parentheses, perhaps behind a
name, maps stand in braces and lists in brackets, and an option is written as
such. Parentheses without names hold a list, and a name by itself holds nothing.
Values may stand inside one another to a fixed depth.
-/
namespace Reindexing.Ron

inductive Value where
  | unit
  | flag (value : Bool)
  | number (value : Number)
  | char (value : Char)
  | text (value : String)
  | option (value : Option Value)
  | list (items : List Value)
  | map (entries : List (Value × Value))
  deriving Repr, Inhabited

/-- What the head of a document may ask for. -/
structure Features where
  /-- What stands behind `Some` needs no parentheses. -/
  implicitSome : Bool
  /-- The parentheses behind `Some` may be those of a value with fields or of a list. -/
  sharedParens : Bool
  deriving DecidableEq, Repr

def isBlank (c : Char) : Bool := c = ' ' || c = '\n' || c = '\t' || c = '\r'

def isNameStart (c : Char) : Bool := c.isAlpha || c = '_'

def isNameChar (c : Char) : Bool := c.isAlphanum || c = '_'

def isRawNameChar (c : Char) : Bool := isNameChar c || c = '.' || c = '+' || c = '-'

/-- What follows a comment between stars, inside `level` of which the text starts. -/
def afterStars? (level : Nat) : List Char → Option (List Char)
  | '/' :: '*' :: rest => afterStars? (level + 1) rest
  | '*' :: '/' :: rest => if level ≤ 1 then some rest else afterStars? (level - 1) rest
  | _ :: rest => afterStars? level rest
  | [] => none

/-- Passes over blanks and comments; a comment between stars must end. -/
def skip? : Nat → List Char → Option (List Char)
  | 0, _ => none
  | fuel + 1, cs =>
    match cs.dropWhile isBlank with
    | '/' :: '/' :: rest => skip? fuel (rest.dropWhile (· != '\n'))
    | '/' :: '*' :: rest => (afterStars? 1 rest).bind (skip? fuel)
    | '/' :: _ => none
    | rest => some rest

def skipAll? (cs : List Char) : Option (List Char) := skip? (cs.length + 1) cs

/-- Passes over a comma with what surrounds it, and tells whether there was one. -/
def skipComma? (cs : List Char) : Option (Bool × List Char) :=
  (skipAll? cs).bind fun
    | ',' :: rest => (skipAll? rest).map (true, ·)
    | rest => some (false, rest)

/-- What follows a word that ends where it should. -/
def afterWord? (word : String) (cs : List Char) : Option (List Char) :=
  let n := word.length
  if cs.take n = word.toList && !(cs.drop n).head?.any isNameChar then some (cs.drop n) else none

/-- A name; behind `r#` it may hold points and signs. -/
def readName? : List Char → Option (List Char × List Char)
  | 'r' :: '#' :: c :: rest =>
    if isRawNameChar c then some ((c :: rest).takeWhile isRawNameChar, (c :: rest).dropWhile isRawNameChar) else none
  | ['r'] | 'r' :: '"' :: _ | 'r' :: '#' :: _ => none
  | c :: rest =>
    if isNameStart c then some (c :: rest.takeWhile isNameChar, rest.dropWhile isNameChar) else none
  | [] => none

/-! ## Numbers -/

def isIntegerChar (c : Char) : Bool := (Json.hexValue? c).isSome || c = '_'

def isRealChar (c : Char) : Bool := c.isDigit || "eE.+-_".toList.contains c

/-- The digits of a whole number in some base, perhaps parted by underscores. -/
def natOf? (base : Nat) (word : List Char) : Option Nat :=
  if word.isEmpty || word.head? = some '_' then none
  else ((word.filter (· != '_')).mapM fun c => (Json.hexValue? c).filter (· < base)).map
    fun ds => ds.foldl (fun n d => base * n + d) 0

/-- A whole number behind its sign. -/
def readNat? (cs : List Char) : Option (Nat × List Char) :=
  let (base, cs) := match cs with
    | '0' :: 'x' :: rest => (16, rest)
    | '0' :: 'o' :: rest => (8, rest)
    | '0' :: 'b' :: rest => (2, rest)
    | cs => (10, cs)
  (natOf? base (cs.takeWhile isIntegerChar)).map fun n => (n, cs.dropWhile isIntegerChar)

/-- A number with a point or an exponent, or one that is too large for a whole number. -/
def readReal? (cs : List Char) : Option (Number × List Char) :=
  let word := cs.takeWhile isRealChar
  if word.contains '_' then none
  else (Decimal.readFloat? word).map fun x => (.real x.toBits, cs.dropWhile isRealChar)

/-- A number; unsigned ones up to `2 ^ 64` and signed ones of 64 bits are whole. -/
def readNumber? (cs : List Char) : Option (Number × List Char) :=
  let (isSigned, isNegative, digits) := match cs with
    | '-' :: rest => (true, true, rest)
    | '+' :: rest => (true, false, rest)
    | cs => (false, false, cs)
  if (digits.takeWhile isIntegerChar).length < (digits.takeWhile isRealChar).length then readReal? cs
  else match readNat? digits with
    | some (n, rest) =>
      let i : Int := if isNegative then -n else n
      if Word.isInt64 i then some (.int i, rest)
      else if !isSigned && n ≤ Word.max64 then some (.real (Float.ofNat n).toBits, rest)
      else readReal? cs
    | none => readReal? cs

/-! ## Texts -/

/-- Up to six hexadecimal digits in front of a closing brace. -/
def readCode? (cs : List Char) : Option (Char × List Char) :=
  let digits := cs.takeWhile (· != '}')
  match digits.mapM Json.hexValue?, cs.drop digits.length with
  | some (d :: ds), '}' :: rest =>
    let n := (d :: ds).foldl (fun n d => 16 * n + d) 0
    if 6 < digits.length || 0x110000 ≤ n || (0xd800 ≤ n && n ≤ 0xdfff) then none else some (Char.ofNat n, rest)
  | _, _ => none

/-- The character of the escape behind a backslash. -/
def readEscape? : List Char → Option (Char × List Char)
  | 'n' :: rest => some ('\n', rest)
  | 'r' :: rest => some ('\r', rest)
  | 't' :: rest => some ('\t', rest)
  | '0' :: rest => some (Char.ofNat 0, rest)
  | 'x' :: a :: b :: rest =>
    match Json.hexValue? a, Json.hexValue? b with
    | some a, some b => some (Char.ofNat (16 * a + b), rest)
    | _, _ => none
  | 'u' :: '{' :: rest => readCode? rest
  | c :: rest => if c = '\'' || c = '"' || c = '\\' then some (c, rest) else none
  | [] => none

/-- Reads a text behind its opening quote; `done` holds its characters in reverse. -/
def readQuoted? (done : List Char) : Nat → List Char → Option (String × List Char)
  | 0, _ => none
  | fuel + 1, cs =>
    match cs with
    | [] => none
    | '"' :: rest => some (String.ofList done.reverse, rest)
    | '\\' :: rest => (readEscape? rest).bind fun (c, rest) => readQuoted? (c :: done) fuel rest
    | c :: rest => readQuoted? (c :: done) fuel rest

/-- Reads a text without escapes up to a quote with the given hashes behind it. -/
def readRaw? (hashes : List Char) (done : List Char) : List Char → Option (String × List Char)
  | [] => none
  | c :: rest =>
    if c = '"' && hashes.isPrefixOf rest then some (String.ofList done.reverse, rest.drop hashes.length)
    else readRaw? hashes (c :: done) rest

def readText? : List Char → Option (String × List Char)
  | '"' :: rest => readQuoted? [] (rest.length + 1) rest
  | 'r' :: rest =>
    let hashes := rest.takeWhile (· = '#')
    match rest.dropWhile (· = '#') with
    | '"' :: rest => readRaw? hashes [] rest
    | _ => none
  | _ => none

/-- Reads a character behind its opening quote. -/
def readChar? : List Char → Option (Char × List Char)
  | '\\' :: rest =>
    match readEscape? rest with
    | some (c, '\'' :: rest) => some (c, rest)
    | _ => none
  | c :: '\'' :: rest => if c = '\'' then none else some (c, rest)
  | _ => none

/-! ## Values -/

/-- Whether parentheses hold a list; otherwise a name and a colon start the first field. -/
def startsList? (cs : List Char) : Option Bool :=
  match readName? cs with
  | none => some true
  | some (_, rest) =>
    (skipAll? rest).bind fun
      | c :: _ => some (c != ':')
      | [] => none

mutual
/-- Reads a value with `room` for values inside it. -/
def readValue? (features : Features) : Nat → Nat → List Char → Option (Value × List Char)
  | 0, _, _ => none
  | fuel + 1, room, cs =>
    if let some rest := afterWord? "true" cs then some (.flag true, rest)
    else if let some rest := afterWord? "false" cs then some (.flag false, rest)
    else if let some rest := afterWord? "Some" cs then
      match skipAll? rest, room with
      | some ('(' :: rest), room + 1 =>
        (readOnly? features fuel room rest).map fun (value, rest) => (.option (some value), rest)
      | some rest, room + 1 =>
        if features.implicitSome then
          (readValue? features fuel room rest).map fun (value, rest) => (.option (some value), rest)
        else none
      | _, _ => none
    else if let some rest := afterWord? "None" cs then some (.option none, rest)
    else if cs.take 2 = ['(', ')'] then some (.unit, cs.drop 2)
    else if let some rest := afterWord? "inf" cs then some (.number (.real (1.0 / 0.0 : Float).toBits), rest)
    else if let some rest := afterWord? "-inf" cs then some (.number (.real (-1.0 / 0.0 : Float).toBits), rest)
    else if let some rest := afterWord? "NaN" cs then some (.number (.real (0.0 / 0.0 : Float).toBits), rest)
    else match readName? cs with
      | some (_, rest) => (skipAll? rest).bind (readFields? features fuel room)
      | none =>
        match cs with
        | [] => none
        | '(' :: _ => readFields? features fuel room cs
        | '[' :: rest => if room = 0 then none else readItems? features fuel (room - 1) ']' true [] rest
        | '{' :: rest => if room = 0 then none else readEntries? features fuel (room - 1) '}' true [] rest
        | '\'' :: rest => (readChar? rest).map fun (c, rest) => (.char c, rest)
        | c :: _ =>
          if c.isDigit || c = '+' || c = '-' then (readNumber? cs).map fun (n, rest) => (.number n, rest)
          else if c = '.' then (readReal? cs).map fun (n, rest) => (.number n, rest)
          else (readText? cs).map fun (s, rest) => (.text s, rest)

/-- Reads the value between `Some` and its closing parenthesis. -/
def readOnly? (features : Features) : Nat → Nat → List Char → Option (Value × List Char)
  | 0, _, _ => none
  | fuel + 1, room, cs => do
    let cs ← skipAll? cs
    if features.sharedParens && cs.head? = some ')' then some (.unit, cs.drop 1)
    else if features.sharedParens && !(← startsList? cs) then
      if room = 0 then none else readEntries? features fuel (room - 1) ')' true [] cs
    else
      let (value, rest) ← readValue? features fuel room cs
      match ← skipComma? rest with
      | (_, ')' :: rest) => some (value, rest)
      | (true, rest) =>
        if !features.sharedParens || room = 0 then none else readItems? features fuel (room - 1) ')' true [value] rest
      | _ => none

/-- Reads what stands in parentheses; without parentheses there is nothing. -/
def readFields? (features : Features) : Nat → Nat → List Char → Option (Value × List Char)
  | 0, _, _ => none
  | fuel + 1, room, cs =>
    match cs with
    | '(' :: inside => do
      if ← startsList? (← skipAll? inside) then
        if room = 0 then none else readItems? features fuel (room - 1) ')' true [] inside
      else if room = 0 then none
      else readEntries? features fuel (room - 1) ')' true [] inside
    | _ => some (.unit, cs)

/-- Reads items up to the closing bracket; `mayStart` says whether another item may come. -/
def readItems? (features : Features) :
    Nat → Nat → Char → Bool → List Value → List Char → Option (Value × List Char)
  | 0, _, _, _, _, _ => none
  | fuel + 1, room, close, mayStart, done, cs => do
    match ← skipAll? cs with
    | [] => none
    | c :: rest =>
      if c = close then some (.list done.reverse, rest)
      else if !mayStart || room = 0 then none
      else
        let (item, rest) ← readValue? features fuel (room - 1) (c :: rest)
        let (comma, rest) ← skipComma? rest
        readItems? features fuel room close comma (item :: done) rest

/-- Reads entries up to the closing bracket; in parentheses the keys are names. -/
def readEntries? (features : Features) :
    Nat → Nat → Char → Bool → List (Value × Value) → List Char → Option (Value × List Char)
  | 0, _, _, _, _, _ => none
  | fuel + 1, room, close, mayStart, done, cs => do
    match ← skipAll? cs with
    | [] => none
    | c :: rest =>
      if c = close then some (.map done.reverse, rest)
      else if !mayStart || room = 0 then none
      else
        let (key, rest) ←
          if close = ')' then (readName? (c :: rest)).map fun (name, rest) => (Value.text (String.ofList name), rest)
          else readValue? features fuel (room - 1) (c :: rest)
        match ← skipAll? rest with
        | ':' :: rest =>
          let (value, rest) ← readValue? features fuel (room - 1) (← skipAll? rest)
          let (comma, rest) ← skipComma? rest
          readEntries? features fuel room close comma ((key, value) :: done) rest
        | _ => none
end

/-! ## Documents -/

/-- Passes over some words with blanks behind each of them. -/
def skipWords? : List String → List Char → Option (List Char)
  | [], cs => some cs
  | word :: words, cs =>
    if word.toList.isPrefixOf cs then (skipAll? (cs.drop word.length)).bind (skipWords? words) else none

/-- The feature of a name that the head of a document may hold. -/
def enable? (f : Features) (name : List Char) : Option Features :=
  match String.ofList name with
  | "implicit_some" => some { f with implicitSome := true }
  | "unwrap_variant_newtypes" => some { f with sharedParens := true }
  | "unwrap_newtypes" => some f
  | _ => none

/-- Reads the names of features between commas. -/
def readFeatures? (f : Features) : Nat → List Char → Option (Features × List Char)
  | 0, _ => none
  | fuel + 1, cs => do
    let (name, rest) ← readName? cs
    let f ← enable? f name
    let (comma, rest) ← skipComma? rest
    if rest.head?.any isNameChar then if comma then readFeatures? f fuel rest else none
    else some (f, rest)

/-- Reads the head of a document. -/
def readHead? (f : Features) : Nat → List Char → Option (Features × List Char)
  | 0, _ => none
  | fuel + 1, cs =>
    match cs with
    | '#' :: _ => do
      let rest ← skipWords? ["#", "!", "[", "enable", "("] cs
      let (f, rest) ← readFeatures? f (rest.length + 1) rest
      let rest ← skipWords? [")", "]"] (← skipAll? rest)
      readHead? f fuel (← skipAll? rest)
    | _ => some (f, cs)

/-- How many values may stand inside one another. -/
def deepestNesting : Nat := 128

def Value.ofText? (s : String) : Option Value := do
  let cs := s.toList
  let (features, rest) ← readHead? ⟨false, false⟩ (cs.length + 1) (← skipAll? cs)
  let (value, rest) ← readValue? features (4 * cs.length + 4) deepestNesting rest
  if (← skipAll? rest).isEmpty then some value else none

/-- The text of a key; a key is a text or a character. -/
def Value.keyText? : Value → Option String
  | .text s => some s
  | .char c => some (String.ofList [c])
  | _ => none

def Value.isChar : Value → Bool
  | .char _ => true
  | _ => false

/-- Fields of which the last one of a name counts, where a name that is a text counts more than a character. -/
def fieldsOf (keys : List Value) (fields : List (String × Json)) : List (String × Json) :=
  let marked := (keys.map Value.isChar).zip fields
  let (chars, texts) := marked.partition (·.1)
  (chars ++ texts).map (·.2)

mutual
/-- The value in JSON, if every key is a text; an option is what it holds. -/
def Value.toJson? : Value → Option Json
  | .unit | .option none => some .null
  | .option (some value) => value.toJson?
  | .flag b => some (.bool b)
  | .number n => some (.number n)
  | .char c => some (.text (String.ofList [c]))
  | .text s => some (.text s)
  | .list items => (itemsToJson? items).map .list
  | .map entries => (entriesToJson? entries).map fun fields => .record (fieldsOf (entries.map (·.1)) fields)

def itemsToJson? : List Value → Option (List Json)
  | [] => some []
  | item :: rest =>
    match item.toJson?, itemsToJson? rest with
    | some j, some js => some (j :: js)
    | _, _ => none

def entriesToJson? : List (Value × Value) → Option (List (String × Json))
  | [] => some []
  | (key, value) :: rest =>
    match key.keyText?, value.toJson?, entriesToJson? rest with
    | some key, some j, some js => some ((key, j) :: js)
    | _, _, _ => none
end

/-- The value of a text, in normal form. -/
def ofText? (s : String) : Option Json := ((Value.ofText? s).bind Value.toJson?).map Json.normal

end Reindexing.Ron
