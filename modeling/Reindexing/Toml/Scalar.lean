import Reindexing.Decimal.Nearest
import Reindexing.Json.Document
import Reindexing.Text.Search
import Reindexing.Time.Calendar
import Reindexing.Toml.Value
import Reindexing.Word

/-!
# TOML scalars

Numbers, booleans, dates and times stand as words without quotes. A word is read
as a whole and then told apart by its form. Integers have 64 bits; digits may be
parted by single underscores.
-/
namespace Reindexing.Toml

/-- The digits between single underscores. -/
def ungroup? (isDigit : Char → Bool) (cs : List Char) : Option (List Char) :=
  let groups := Text.splitAt (· == '_') cs
  if groups.all fun g => !g.isEmpty && g.all isDigit then some groups.flatten else none

/-- An integer in another base than ten. -/
def readBased? (base : Nat) (cs : List Char) : Option Value := do
  let isDigit (c : Char) : Bool := (Json.hexValue? c).any (· < base)
  let ds ← ungroup? isDigit cs
  let n := ds.foldl (fun n d => base * n + (Json.hexValue? d).getD 0) 0
  if Word.isInt64 n then some (.integer n) else none

/-- Digits without a zero in front. -/
def wholeDigits? (cs : List Char) : Option (List Char) :=
  (ungroup? Decimal.isDigit cs).filter fun ds => ds.length = 1 || ds.head? != some '0'

/-- A number in base ten without its sign; one that is too large is refused above and infinite below. -/
def readDecimal? (negative : Bool) (cs : List Char) : Option Value :=
  let isMark (c : Char) : Bool := c == '.' || c == 'e' || c == 'E'
  let signed (x : Float) : Value := .real (if negative then -x else x).toBits
  match String.ofList cs with
  | "inf" => some (signed (1.0 / 0.0))
  | "nan" => some (signed (0.0 / 0.0))
  | _ => do
    let whole ← wholeDigits? (cs.takeWhile (!isMark ·))
    match cs.dropWhile (!isMark ·) with
    | [] =>
      let n : Int := Decimal.valueOf whole
      let i := if negative then -n else n
      if Word.isInt64 i then some (.integer i) else none
    | rest =>
      let isE (c : Char) : Bool := c == 'e' || c == 'E'
      let places ← match rest with
        | '.' :: more => ungroup? Decimal.isDigit (more.takeWhile (!isE ·))
        | _ => some []
      let exponent ← match rest.dropWhile (!isE ·) with
        | [] => some 0
        | _ :: '+' :: ds => (ungroup? Decimal.isDigit ds).map fun ds => (Decimal.valueOf ds : Int)
        | _ :: '-' :: ds => (ungroup? Decimal.isDigit ds).map fun ds => -(Decimal.valueOf ds : Int)
        | _ :: ds => (ungroup? Decimal.isDigit ds).map fun ds => (Decimal.valueOf ds : Int)
      let x := Decimal.nearest (whole ++ places) (exponent - places.length)
      if x.isInf && !negative then none else some (signed x)

/-- Two digits, with a value in bounds. -/
def twoDigits? (cs : List Char) (low high : Nat) : Option Nat :=
  if cs.length = 2 then (Decimal.readNat? cs).filter fun n => decide (low ≤ n) && decide (n ≤ high) else none

def isDate (cs : List Char) : Bool :=
  match Text.splitAt (· == '-') cs with
  | [y, m, d] =>
    match if y.length = 4 then Decimal.readNat? y else none, twoDigits? m 1 12 with
    | some y, some m => (twoDigits? d 1 (Time.daysInMonth y m)).isSome
    | _, _ => false
  | _ => false

/-- A time of day, with the fraction of its seconds cut after nine places and written without zeros at its end. -/
def clockText? (cs : List Char) : Option (List Char) :=
  let (whole, fraction) := match Text.splitFirst '.' cs with
    | some (whole, fraction) => (whole, some fraction)
    | none => (cs, none)
  let isClock := match Text.splitAt (· == ':') whole with
    | [h, m, s] => (twoDigits? h 0 23).isSome && (twoDigits? m 0 59).isSome && (twoDigits? s 0 60).isSome
    | _ => false
  if !isClock then none
  else match fraction with
    | none => some whole
    | some ds =>
      if ds.isEmpty || !ds.all Decimal.isDigit then none
      else
        let places := Text.dropEnd (· == '0') (ds.take 9)
        some (if places.isEmpty then whole else whole ++ '.' :: places)

/-- An offset from universal time behind its sign; no offset is written with a plus. -/
def offsetText? (sign : Char) (cs : List Char) : Option (List Char) :=
  match Text.splitAt (· == ':') cs with
  | [h, m] =>
    match twoDigits? h 0 23, twoDigits? m 0 59 with
    | some hours, some minutes => some ((if hours + minutes = 0 then '+' else sign) :: cs)
    | _, _ => none
  | _ => none

/-- A time of day, perhaps with an offset. -/
def timeText? (cs : List Char) : Option (List Char) :=
  let clock := cs.takeWhile fun c => c == ':' || c == '.' || Decimal.isDigit c
  (clockText? clock).bind fun text =>
    match cs.drop clock.length with
    | [] => some text
    | ['Z'] | ['z'] => some (text ++ ['Z'])
    | '+' :: rest => (offsetText? '+' rest).map (text ++ ·)
    | '-' :: rest => (offsetText? '-' rest).map (text ++ ·)
    | _ => none

/-- A date, a time or both, which then have the letter `T` between them. -/
def momentText? (cs : List Char) : Option (List Char) :=
  if isDate cs then some cs
  else if isDate (cs.take 10) then
    match cs.drop 10 with
    | 'T' :: rest | 't' :: rest | ' ' :: rest => (timeText? rest).map fun text => cs.take 10 ++ 'T' :: text
    | _ => none
  else clockText? cs

/-- The value of a word. -/
def readWord? (cs : List Char) : Option Value :=
  match cs with
  | ['t', 'r', 'u', 'e'] => some (.flag true)
  | ['f', 'a', 'l', 's', 'e'] => some (.flag false)
  | '0' :: 'x' :: rest => readBased? 16 rest
  | '0' :: 'o' :: rest => readBased? 8 rest
  | '0' :: 'b' :: rest => readBased? 2 rest
  | '+' :: rest => readDecimal? false rest
  | '-' :: rest => readDecimal? true rest
  | _ =>
    match momentText? cs with
    | some text => some (.moment (String.ofList text))
    | none => readDecimal? false cs

def isWordChar (c : Char) : Bool := c.isAlphanum || "+-_.:".toList.contains c

/-- Takes a word; a blank may stand between a date and a time. -/
def takeWord (cs : List Char) : List Char × List Char :=
  let word := cs.takeWhile isWordChar
  let rest := cs.dropWhile isWordChar
  match rest with
  | ' ' :: more =>
    if isDate word && (more.take 2).all Decimal.isDigit && (more.drop 2).head? = some ':' then
      (word ++ ' ' :: more.takeWhile isWordChar, more.dropWhile isWordChar)
    else (word, rest)
  | _ => (word, rest)

end Reindexing.Toml
