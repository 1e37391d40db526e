import Reindexing.Decimal.Digits
import Reindexing.Json.Value
import Reindexing.Word

/-!
# JSON numerals

The value of a numeral. An integer that fits in 64 bits is exact; every other
numeral is a double. Its digits are collected in 64 bits as far as they fit,
and the result is scaled by one power of ten, so a long numeral can be one
place off the nearest double. A numeral beyond the largest double has no value.
-/
namespace Reindexing.Json

/-- The parts of a numeral, as digits without signs and points. -/
structure Numeral where
  negative : Bool
  whole : List Char
  fraction : Option (List Char)
  /-- Sign and digits of the exponent; `true` for a minus. -/
  exponent : Option (Bool × List Char)
  deriving DecidableEq, Repr

/-- Adds digits to `n` while the result fits in 64 bits; the digits left over follow. -/
def fillWord (n : Nat) : List Char → Nat × List Char
  | [] => (n, [])
  | d :: ds =>
    let next := 10 * n + Decimal.digitValue d
    if next ≤ Word.max64 then fillWord next ds else (n, d :: ds)

/-- `significand * 10 ^ exponent` by steps of at most `10 ^ 308`; `none` beyond the largest double. -/
def scaleTen (significand : Float) (exponent : Int) : Nat → Option Float
  | 0 => some significand
  | fuel + 1 =>
    if exponent.natAbs ≤ 308 then
      let power := Float.ofScientific 1 false exponent.natAbs
      if 0 ≤ exponent then
        let scaled := significand * power
        if scaled.isInf then none else some scaled
      else some (significand / power)
    else if significand == 0.0 then some significand
    else if 0 ≤ exponent then none
    else scaleTen (significand / 1e308) (exponent + 308) fuel

def signedReal (negative : Bool) (x : Float) : Number :=
  .real (if negative then -x else x).toBits

/-- The largest exponent that is read digit by digit. -/
def maxExponent : Nat := 0x7fffffff

def Numeral.value? (n : Numeral) : Option Number :=
  let (significand, skipped) := fillWord 0 n.whole
  let word := (UInt64.ofNat significand).toFloat
  match n.fraction, n.exponent, skipped with
  | none, none, [] =>
    if !n.negative then some (.int significand)
    else if 1 ≤ significand && significand ≤ Word.maxInt64 + 1 then some (.int (-significand))
    else some (signedReal true word)
  | fraction, exponent, skipped =>
    let places := fraction.getD []
    let (significand, ignored) := fillWord significand places
    let scale : Int := skipped.length - (places.length - ignored.length : Nat)
    let word := (UInt64.ofNat significand).toFloat
    match exponent with
    | none => (scaleTen word scale 8).map (signedReal n.negative)
    | some (minus, ds) =>
      let e := Decimal.valueOf ds
      if maxExponent < e then
        if significand ≠ 0 && !minus then none else some (signedReal n.negative 0.0)
      else (scaleTen word (if minus then scale - e else scale + e) 8).map (signedReal n.negative)

end Reindexing.Json
