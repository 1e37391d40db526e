import Reindexing.Time.Calendar

/-!
# Instants

An instant is a second counted from 1970-01-01T00:00:00Z and nanoseconds in it;
a leap second is a second of up to two billion nanoseconds. Instants are ordered
by second and then by nanosecond. Moving an instant out of a leap second falls
back to the ordinary second count, and an instant outside the years -262143 to
262142 does not exist.
-/
namespace Reindexing

structure Instant where
  second : Int
  nano : Nat
  deriving DecidableEq, Repr

namespace Instant

def nanosPerSecond : Nat := 1000000000

def secondsPerDay : Int := 86400

def minSecond : Int := (Time.Date.mk (-262143) 1 1).toDays * secondsPerDay

def maxSecond : Int := ((Time.Date.mk 262142 12 31).toDays + 1) * secondsPerDay - 1

def epoch : Instant := ⟨0, 0⟩

/-- The latest instant. -/
def latest : Instant := ⟨maxSecond, 999999999⟩

protected def le (a b : Instant) : Prop := a.second < b.second ∨ a.second = b.second ∧ a.nano ≤ b.nano

protected def lt (a b : Instant) : Prop := a.second < b.second ∨ a.second = b.second ∧ a.nano < b.nano

instance : LE Instant := ⟨Instant.le⟩

instance : LT Instant := ⟨Instant.lt⟩

instance (a b : Instant) : Decidable (a ≤ b) := inferInstanceAs (Decidable (_ ∨ _))

instance (a b : Instant) : Decidable (a < b) := inferInstanceAs (Decidable (_ ∨ _))

instance : Max Instant := ⟨fun a b => if a ≤ b then b else a⟩

def inRange (second : Int) : Bool := decide (minSecond ≤ second) && decide (second ≤ maxSecond)

/-- Whether the instant lies in a leap second. -/
def isLeap (t : Instant) : Bool := decide (nanosPerSecond ≤ t.nano)

/-- Adds whole seconds and a fraction of the same sign outside leap seconds. -/
def shift (second : Int) (nano : Int) (seconds nanos : Int) : Instant :=
  let second := second + seconds
  let nano := nano + nanos
  if nano < 0 then ⟨second - 1, (nano + nanosPerSecond).toNat⟩
  else if nanosPerSecond ≤ nano then ⟨second + 1, (nano - nanosPerSecond).toNat⟩
  else ⟨second, nano.toNat⟩

/-- The instant `delta` nanoseconds later, if it exists. -/
def add? (t : Instant) (delta : Int) : Option Instant :=
  let seconds := delta.tdiv nanosPerSecond
  let nanos := delta.tmod nanosPerSecond
  let moved :=
    if t.isLeap then
      if 0 < seconds ∨ 0 < nanos ∧ 2 * (nanosPerSecond : Int) ≤ t.nano + nanos then
        shift t.second (t.nano - nanosPerSecond) seconds nanos
      else if seconds < 0 then shift (t.second + 1) (t.nano - nanosPerSecond) seconds nanos
      else ⟨t.second, (t.nano + nanos).toNat⟩
    else shift t.second t.nano seconds nanos
  if inRange moved.second then some moved else none

/-- The nanoseconds from `b` to `a`; a leap second between times of day counts. -/
def sub (a b : Instant) : Int :=
  let dayTime (t : Instant) := t.second % secondsPerDay
  let leap : Int :=
    if dayTime b < dayTime a ∧ b.isLeap then 1
    else if dayTime a < dayTime b ∧ a.isLeap then -1
    else 0
  (a.second - b.second + leap) * nanosPerSecond + (a.nano - b.nano)

instance : HSub Instant Instant Int := ⟨sub⟩

/-- Whole milliseconds of a difference, rounded toward zero. -/
def wholeMillis (delta : Int) : Int := delta.tdiv 1000000

/-- Whole seconds of a difference, rounded toward zero. -/
def wholeSeconds (delta : Int) : Int := delta.tdiv nanosPerSecond

end Instant

end Reindexing
