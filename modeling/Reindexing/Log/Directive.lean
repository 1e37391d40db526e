import Reindexing.Decimal.Nearest
import Reindexing.Log
import Reindexing.Text.Alphanumeric
import Reindexing.Text.Pattern
import Reindexing.Text.Pattern.Reading
import Reindexing.Text.Search
import Reindexing.Word

/-!
# Log directives

A directive lets events through from a level on. It may be limited to a target,
to the inside of a span with a given name, and to spans with given fields. It is
written as a target, then in brackets the span with its fields in braces, then a
level behind an equals sign; every part may be left out.
-/
namespace Reindexing

/-- The least level that passes; `none` lets nothing through. -/
abbrev Threshold := Option LogLevel

namespace Threshold

def allows (t : Threshold) (level : LogLevel) : Bool := t.any fun least => least.rank ≤ level.rank

/-- The threshold that lets more through. -/
def widen (a b : Threshold) : Threshold :=
  match a, b with
  | some x, some y => if x.rank ≤ y.rank then a else b
  | some _, none => a
  | none, b => b

def widest (ts : List Threshold) : Threshold := ts.foldl widen none

/-- The threshold of a number from 0, which lets nothing through, to 5. -/
def ofNumber? : Nat → Option Threshold
  | 0 => some none
  | 1 => some (some .error)
  | 2 => some (some .warn)
  | 3 => some (some .info)
  | 4 => some (some .debug)
  | 5 => some (some .trace)
  | _ => none

/-- Reads a threshold: a number, or a name in any case. No text at all means errors. -/
def ofText? (s : String) : Option Threshold :=
  let digits := match s.toList with
    | '+' :: rest => rest
    | cs => cs
  match (Decimal.readNat? digits).bind ofNumber? with
  | some t => some t
  | none =>
    let name := String.ofList (s.toList.map Char.toUpper)
    if name = "" then some (some .error)
    else if name = "OFF" then some none
    else (LogLevel.every.find? (·.name = name)).map some

end Threshold

inductive FieldPattern where
  | flag (b : Bool)
  | number (n : Nat)
  /-- A number that no field can have. -/
  | noValue
  | pattern (p : Text.Pattern)
  deriving DecidableEq, Repr

namespace FieldPattern

/-- Reads a truth value, a number, or else a pattern. -/
def ofText? (s : String) : Option FieldPattern :=
  let digits := match s.toList with
    | '+' :: rest => rest
    | cs => cs
  if s = "true" then some (.flag true)
  else if s = "false" then some (.flag false)
  else match (Decimal.readNat? digits).filter (· ≤ Word.max64) with
    | some n => some (.number n)
    | none =>
      if (Decimal.readFloat? s.toList).isSome then some .noValue else (Text.Pattern.ofText? s).map .pattern

def matchesValue : FieldPattern → LogValue → Bool
  | .flag a, .flag b => a == b
  | .number a, .number b => a == b
  | .pattern p, .shown s | .pattern p, .plain s => p.matchesEnd s
  | _, _ => false

end FieldPattern

structure Directive where
  target : Option String
  span : Option String
  /-- Names of fields that a span must have, some with a value. -/
  fields : List (String × Option FieldPattern)
  level : Threshold
  deriving DecidableEq, Repr

namespace Directive

/-- What is being read; the numbers are positions where a part begins. -/
inductive Reading where
  | start
  | levelOrTarget (first : Nat)
  | span (first : Nat)
  | field (first : Nat)
  | fields
  | target
  | level (first : Nat)
  deriving DecidableEq, Repr

/-- A part of the text between two positions. -/
def slice (text : List Char) (first behind : Nat) : String := String.ofList ((text.take behind).drop first)

def fieldOf? (s : String) : Option (String × Option FieldPattern) :=
  if s = "" then none
  else match (Text.splitAt (· == '=') s.toList).map String.ofList with
    | name :: value :: _ => (FieldPattern.ofText? value).map fun p => (name, some p)
    | _ => some (s, none)

/-- Reads the character `c` at position `i`. -/
def step (text : List Char) (d : Directive) (i : Nat) (c : Char) : Reading → Option (Directive × Reading)
  | .start =>
    if c = '[' then some (d, .span (i + 1))
    else if c = '-' || c = ':' || c = '_' || Text.isAlphanumeric c then some (d, .levelOrTarget i)
    else none
  | .levelOrTarget first =>
    if c = '=' then some ({ d with target := some (slice text first i) }, .level (i + 1))
    else if c = '[' then some ({ d with target := some (slice text first i) }, .span (i + 1))
    else some (d, .levelOrTarget first)
  | .span first =>
    if c = ']' then some ({ d with span := some (slice text first i) }, .target)
    else if c = '{' then
      let name := slice text first i
      some ({ d with span := if name = "" then none else some name }, .field (i + 1))
    else some (d, .span first)
  | .field first =>
    if c = '}' then
      (fieldOf? (slice text first i)).map fun field => ({ d with fields := d.fields ++ [field] }, .fields)
    else some (d, .field first)
  | .fields => if c = ']' then some (d, .target) else none
  | .target => if c = '=' then some (d, .level (i + 1)) else none
  | .level first => some (d, .level first)

def readFrom (text : List Char) (d : Directive) (reading : Reading) (i : Nat) :
    List Char → Option (Directive × Reading)
  | [] => some (d, reading)
  | c :: rest => (step text d i c reading).bind fun (d, reading) => readFrom text d reading (i + 1) rest

/-- Reads a directive. The blanks around it are not looked at, though positions count from its
start; a text that is no level is a target. -/
def ofText? (s : String) : Option Directive := do
  let text := s.toList
  let (d, reading) ← readFrom text ⟨none, none, [], some .trace⟩ .start 0 (Text.trimChars text)
  match reading with
  | .levelOrTarget first =>
    let rest := slice text first text.length
    match Threshold.ofText? rest with
    | some level => some { d with level }
    | none => some { d with target := some rest }
  | .level first =>
    let rest := slice text first text.length
    if rest = "" then some d else (Threshold.ofText? rest).map fun level => { d with level }
  | .target => some d
  | _ => none

end Directive

end Reindexing
