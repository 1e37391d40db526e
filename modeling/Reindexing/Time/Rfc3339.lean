import Reindexing.Decimal.Digits
import Reindexing.Text.Blank
import Reindexing.Time.Instant

/-!
# Instants as text

Instants are written in UTC with a `Z` and with the fewest of 0, 3, 6 or 9
places that lose nothing. Years outside 0 to 9999 carry a sign and at least
four digits. Two readers are given: the strict one accepts the RFC 3339 grammar
only, the lenient one also short numbers, signed years and blanks between the
parts.
-/
namespace Reindexing.Time

/-- A date and a time of day as read, before they are checked together. -/
structure Fields where
  year : Int
  month : Nat
  day : Nat
  hour : Nat
  minute : Nat
  second : Nat
  nano : Nat
  /-- Seconds east of UTC. -/
  offset : Int
  deriving DecidableEq, Repr

/-- The instant of a local date and time; the second 60 is a leap second. -/
def Fields.toInstant? (f : Fields) : Option Instant :=
  let date : Date := ⟨f.year, f.month, f.day⟩
  let (second, nano) := if f.second = 60 then (59, f.nano + Instant.nanosPerSecond) else (f.second, f.nano)
  let clock : Int := (f.hour * 3600 + f.minute * 60 + second : Nat)
  let localSecond := date.toDays * Instant.secondsPerDay + clock
  let utc := localSecond - f.offset
  if date.isValid && decide (f.hour < 24) && decide (f.minute < 60) && decide (f.second ≤ 60) &&
      decide (f.offset.natAbs < 86400) && Instant.inRange localSecond && Instant.inRange utc then
    some ⟨utc, nano⟩
  else none

/-- Between `least` and `most` digits. -/
def number? (least most : Nat) (cs : List Char) : Option (Nat × List Char) :=
  let ds := (cs.take most).takeWhile Decimal.isDigit
  if ds.length < least then none else some (Decimal.valueOf ds, cs.drop ds.length)

def expect? (c : Char) : List Char → Option (List Char)
  | d :: rest => if d = c then some rest else none
  | [] => none

/-- Digits behind the point of a second, of which nine count. -/
def fraction? (cs : List Char) : Option (Nat × List Char) := do
  let (ds, rest) := Decimal.spanDigits cs
  if ds = [] then none
  else
    let kept := ds.take 9
    some (Decimal.valueOf kept * Nat.pow 10 (9 - kept.length), rest)

/-- A point and the digits behind it, or nothing. -/
def optionalFraction? : List Char → Option (Nat × List Char)
  | '.' :: rest => fraction? rest
  | cs => some (0, cs)

/-- The mark between a date and a time of day. -/
def timeMark? : List Char → Option (List Char)
  | c :: rest => if c = 'T' ∨ c = 't' ∨ c = ' ' then some rest else none
  | [] => none

/-- Two digits of an offset, and the rest. -/
def twoDigits? : List Char → Option (Nat × List Char)
  | a :: b :: rest =>
    if Decimal.isDigit a && Decimal.isDigit b then some (Decimal.valueOf [a, b], rest) else none
  | _ => none

/-- `Z` or an offset in hours and minutes, where `colon` passes what stands between them. -/
def offset? (colon : List Char → Option (List Char)) : List Char → Option (Int × List Char)
  | [] => none
  | c :: rest =>
    if c = 'Z' ∨ c = 'z' then some (0, rest)
    else if c = '+' ∨ c = '-' ∨ c = '−' then do
      let (hours, rest) ← twoDigits? rest
      let rest ← colon rest
      let (minutes, rest) ← twoDigits? rest
      if 60 ≤ minutes then none
      let seconds : Int := (hours * 3600 + minutes * 60 : Nat)
      some (if c = '+' then seconds else -seconds, rest)
    else none

def strictFields? (cs : List Char) : Option (Fields × List Char) := do
  let (year, cs) ← number? 4 4 cs
  let cs ← expect? '-' cs
  let (month, cs) ← number? 2 2 cs
  let cs ← expect? '-' cs
  let (day, cs) ← number? 2 2 cs
  let cs ← timeMark? cs
  let (hour, cs) ← number? 2 2 cs
  let cs ← expect? ':' cs
  let (minute, cs) ← number? 2 2 cs
  let cs ← expect? ':' cs
  let (second, cs) ← number? 2 2 cs
  let (nano, cs) ← optionalFraction? cs
  let (offset, cs) ← offset? (expect? ':') cs
  some (⟨year, month, day, hour, minute, second, nano, offset⟩, cs)

/-- Reads an instant by the RFC 3339 grammar. -/
def readStrict? (s : String) : Option Instant :=
  match strictFields? s.toList with
  | some (fields, []) => fields.toInstant?
  | _ => none

/-- A number of at most `most` digits behind blanks. -/
def looseNumber? (most : Nat) (cs : List Char) : Option (Nat × List Char) :=
  number? 1 most (Text.trimStartChars cs)

/-- A year of at most four digits, or of any length behind a sign. -/
def looseYear? (cs : List Char) : Option (Int × List Char) :=
  match Text.trimStartChars cs with
  | '-' :: rest => (number? 1 rest.length rest).map fun (n, cs) => (-(n : Int), cs)
  | '+' :: rest => (number? 1 rest.length rest).map fun (n, cs) => ((n : Int), cs)
  | cs => (number? 1 4 cs).map fun (n, cs) => ((n : Int), cs)

def looseExpect? (c : Char) (cs : List Char) : Option (List Char) := expect? c (Text.trimStartChars cs)

def passColons (cs : List Char) : Option (List Char) :=
  some (cs.dropWhile fun c => c = ':' || Text.isBlank c)

/-- The letters `UTC` in any case, or an offset. -/
def looseOffset? (cs : List Char) : Option (Int × List Char) :=
  match cs with
  | u :: t :: c :: rest =>
    if [u, t, c].map Char.toLower = ['u', 't', 'c'] then some (0, rest) else offset? passColons cs
  | _ => offset? passColons cs

def looseFields? (cs : List Char) : Option (Fields × List Char) := do
  let (year, cs) ← looseYear? cs
  let cs ← looseExpect? '-' cs
  let (month, cs) ← looseNumber? 2 cs
  let cs ← looseExpect? '-' cs
  let (day, cs) ← looseNumber? 2 cs
  let cs ← timeMark? cs
  let (hour, cs) ← looseNumber? 2 cs
  let cs ← looseExpect? ':' cs
  let (minute, cs) ← looseNumber? 2 cs
  let cs ← looseExpect? ':' cs
  let (second, cs) ← looseNumber? 2 cs
  let (nano, cs) ← optionalFraction? cs
  let (offset, cs) ← looseOffset? (Text.trimStartChars cs)
  some (⟨year, month, day, hour, minute, second, nano, offset⟩, cs)

/-- Reads an instant with short numbers, signed years and blanks between the parts. -/
def readLoose? (s : String) : Option Instant := do
  let (fields, rest) ← looseFields? s.toList
  if rest.all Text.isBlank then fields.toInstant? else none

/-- The fraction of a second with 0, 3, 6 or 9 places. -/
def fractionText (nano : Nat) : String :=
  if nano = 0 then ""
  else if nano % 1000000 = 0 then "." ++ Decimal.padded 3 (nano / 1000000)
  else if nano % 1000 = 0 then "." ++ Decimal.padded 6 (nano / 1000)
  else "." ++ Decimal.padded 9 nano

def yearText (year : Int) : String :=
  if 0 ≤ year ∧ year ≤ 9999 then Decimal.padded 4 year.toNat
  else (if year < 0 then "-" else "+") ++ Decimal.padded 4 year.natAbs

/-- The date and time of day of an instant, with `zone` behind them. -/
def write (fraction : Nat → String) (zone : String) (t : Instant) : String :=
  let date := Date.ofDays (t.second / Instant.secondsPerDay)
  let clock := (t.second % Instant.secondsPerDay).toNat
  let (second, nano) :=
    if t.isLeap then (clock % 60 + 1, t.nano - Instant.nanosPerSecond) else (clock % 60, t.nano)
  yearText date.year ++ "-" ++ Decimal.padded 2 date.month ++ "-" ++ Decimal.padded 2 date.day ++ "T" ++
    Decimal.padded 2 (clock / 3600) ++ ":" ++ Decimal.padded 2 (clock / 60 % 60) ++ ":" ++
    Decimal.padded 2 second ++ fraction nano ++ zone

end Reindexing.Time

namespace Reindexing

/-- The written form of an instant. -/
def Instant.toText (t : Instant) : String := Time.write Time.fractionText "Z" t

end Reindexing
