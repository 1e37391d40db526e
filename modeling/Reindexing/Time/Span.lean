import Reindexing.Decimal.Digits
import Reindexing.Text.Blank
import Reindexing.Time.Instant
import Reindexing.Word

/-!
# Spans of time

A span is a number of nanoseconds with less than `2 ^ 64` whole seconds. It is
written with nine places, or for people in the largest unit that is not zero.
People also write spans as a sequence of numbers with units, such as `1h 30m`;
every part may have a decimal fraction that is no finer than a nanosecond.
-/
namespace Reindexing

structure Span where
  nanos : Nat
  deriving DecidableEq, Repr

namespace Span

def ofSeconds (n : Nat) : Span := ⟨n * 1000000000⟩

def ofMillis (n : Nat) : Span := ⟨n * 1000000⟩

def zero : Span := ⟨0⟩

/-- The longest span. -/
def longest : Span := ⟨(Word.max64 + 1) * 1000000000 - 1⟩

def seconds (s : Span) : Nat := s.nanos / 1000000000

def subNanos (s : Span) : Nat := s.nanos % 1000000000

def millis (s : Span) : Nat := s.nanos / 1000000

def isZero (s : Span) : Bool := s.nanos == 0

instance : LE Span := ⟨fun a b => a.nanos ≤ b.nanos⟩

instance : LT Span := ⟨fun a b => a.nanos < b.nanos⟩

instance (a b : Span) : Decidable (a ≤ b) := inferInstanceAs (Decidable (a.nanos ≤ b.nanos))

instance (a b : Span) : Decidable (a < b) := inferInstanceAs (Decidable (a.nanos < b.nanos))

instance : Max Span := ⟨fun a b => if a ≤ b then b else a⟩

instance : Min Span := ⟨fun a b => if a ≤ b then a else b⟩

/-- The sum, unless it is longer than the longest span. -/
def add? (a b : Span) : Option Span :=
  if a.nanos + b.nanos ≤ longest.nanos then some ⟨a.nanos + b.nanos⟩ else none

/-- The product, unless it is longer than the longest span. -/
def scale? (s : Span) (factor : Nat) : Option Span :=
  if s.nanos * factor ≤ longest.nanos then some ⟨s.nanos * factor⟩ else none

/-- The longest span that can be added to an instant: `2 ^ 63 - 1` milliseconds. -/
def longestDelta : Span := ⟨Word.maxInt64 * 1000000⟩

/-- The span as a difference of instants, unless it is too long for one. -/
def toDelta? (s : Span) : Option Int := if s ≤ longestDelta then some s.nanos else none

/-- Seconds with nine places. -/
def toText (s : Span) : String := Decimal.ofNat s.seconds ++ "." ++ Decimal.padded 9 s.subNanos

/-- A whole number with the places of `part` in `unit`, without zeros at the end. -/
def withPlaces (whole part width : Nat) : String :=
  let places := Text.dropEnd (· == '0') (Decimal.paddedDigits width part)
  if places = [] then Decimal.ofNat whole else Decimal.ofNat whole ++ "." ++ String.ofList places

/-- The span in the largest unit that is not zero. -/
def inspect (s : Span) : String :=
  if 0 < s.seconds then withPlaces s.seconds s.subNanos 9 ++ "s"
  else if 1000000 ≤ s.nanos then withPlaces (s.nanos / 1000000) (s.nanos % 1000000) 6 ++ "ms"
  else if 1000 ≤ s.nanos then withPlaces (s.nanos / 1000) (s.nanos % 1000) 3 ++ "µs"
  else Decimal.ofNat s.nanos ++ "ns"

inductive TimeUnit where
  | nano | micro | milli | second | minute | hour | day | week | month | year
  deriving DecidableEq, Repr

/-- The names of the units; a month is 30.44 days and a year 365.25 days. -/
def unitNames : List (TimeUnit × List String) :=
  [(.nano, ["nanos", "nsec", "ns"]), (.micro, ["usec", "us", "µs"]), (.milli, ["millis", "msec", "ms"]),
   (.second, ["seconds", "second", "secs", "sec", "s"]),
   (.minute, ["minutes", "minute", "min", "mins", "m"]), (.hour, ["hours", "hour", "hrs", "hr", "h"]),
   (.day, ["days", "day", "d"]), (.week, ["weeks", "week", "wks", "wk", "w"]),
   (.month, ["months", "month", "M"]), (.year, ["years", "year", "yrs", "yr", "y"])]

def unitOf? (name : String) : Option TimeUnit :=
  (unitNames.find? fun (_, names) => names.contains name).map (·.1)

/-- Whole seconds of a unit, for units of at least a second. -/
def TimeUnit.seconds : TimeUnit → Nat
  | .nano | .micro | .milli => 0
  | .second => 1
  | .minute => 60
  | .hour => 3600
  | .day => 86400
  | .week => 604800
  | .month => 2630016
  | .year => 31557600

/-- Nanoseconds of a unit below a second. -/
def TimeUnit.nanos : TimeUnit → Nat
  | .nano => 1
  | .micro => 1000
  | .milli => 1000000
  | _ => 0

/-- Parts of units up to the minute are whole nanoseconds, of longer units whole seconds. -/
def TimeUnit.fractionNanos : TimeUnit → Nat
  | .micro => 1000
  | .milli => 1000000
  | .second => 1000000000
  | .minute => 60000000000
  | _ => 0

def word? (n : Nat) : Option Nat := if n ≤ Word.max64 then some n else none

/-- Adds seconds and nanoseconds; neither may leave 64 bits on the way. -/
def addParts? (total : Span) (seconds nanos : Nat) : Option Span := do
  let nanos ← word? (total.subNanos + nanos)
  let seconds ← word? (seconds + nanos / 1000000000)
  let seconds ← word? (total.seconds + seconds)
  some ⟨seconds * 1000000000 + nanos % 1000000000⟩

/-- A decimal fraction as read: numerator and power of ten. -/
structure Fraction where
  numerator : Nat
  denominator : Nat
  deriving DecidableEq, Repr

/-- The quotient of two numbers whose division leaves nothing over. -/
def exactQuotient? (n d : Nat) : Option Nat := if n % d = 0 then some (n / d) else none

def addUnit? (total : Span) (n : Nat) (fraction : Option Fraction) (name : List Char) : Option Span := do
  let unit ← unitOf? (String.ofList name)
  let seconds ← word? (n * unit.seconds)
  let nanos ← word? (n * unit.nanos)
  let total ← addParts? total seconds nanos
  match fraction with
  | none => some total
  | some f =>
    if unit = .nano then none
    else if unit.fractionNanos ≠ 0 then
      addParts? total 0 (← exactQuotient? (← word? (f.numerator * unit.fractionNanos)) f.denominator)
    else addParts? total (← exactQuotient? (← word? (f.numerator * unit.seconds)) f.denominator) 0

def isUnitLetter (c : Char) : Bool := ('a' ≤ c && c ≤ 'z') || ('A' ≤ c && c ≤ 'Z') || c = 'µ'

/-- What the reader of a written span is in the middle of. -/
inductive Reading where
  | start
  | whole (n : Nat)
  | part (n : Nat) (fraction : Fraction)
  | unit (n : Nat) (fraction : Option Fraction) (name : List Char)
  deriving DecidableEq, Repr

/-- Reads one character. -/
def Reading.next? (total : Span) (c : Char) : Reading → Option (Reading × Span)
  | .start =>
    if Decimal.isDigit c then some (.whole (Decimal.digitValue c), total)
    else if Text.isBlank c then some (.start, total) else none
  | .whole n =>
    if Decimal.isDigit c then (word? (10 * n + Decimal.digitValue c)).map fun n => (.whole n, total)
    else if Text.isBlank c then some (.whole n, total)
    else if isUnitLetter c then some (.unit n none [c], total)
    else if c = '.' then some (.part n ⟨0, 1⟩, total) else none
  | .part n f =>
    if Decimal.isDigit c then do
      let denominator ← word? (f.denominator * 10)
      let numerator ← word? (f.numerator * 10 + Decimal.digitValue c)
      some (.part n ⟨numerator, denominator⟩, total)
    else if Text.isBlank c then some (.part n f, total)
    else if isUnitLetter c && f.denominator != 1 then some (.unit n (some f) [c], total) else none
  | .unit n f name =>
    if Decimal.isDigit c then
      (addUnit? total n f name.reverse).map fun total => (.whole (Decimal.digitValue c), total)
    else if Text.isBlank c then (addUnit? total n f name.reverse).map fun total => (.start, total)
    else if isUnitLetter c then some (.unit n f (c :: name), total) else none

def readChars? (state : Reading) (total : Span) : List Char → Option Span
  | [] =>
    match state with
    | .start => some total
    | .unit n f name => addUnit? total n f name.reverse
    | _ => none
  | c :: rest =>
    match state.next? total c with
    | some (state, total) => readChars? state total rest
    | none => none

/-- Reads a span as people write it; a lone zero needs no unit. -/
def read? (s : String) : Option Span :=
  if s = "0" then some zero
  else if s.toList.all Text.isBlank then none
  else readChars? .start zero s.toList

end Span

end Reindexing
