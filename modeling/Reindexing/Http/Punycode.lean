import Reindexing.Json.Document

/-!
# Names in ASCII

A text with characters outside of ASCII is written with ASCII characters only: those
that it has, and behind the last dash where the others go. These are told in order of
their code points, each by a number of skipped places in digits of base 36. The digits
end themselves, by thresholds that follow the size of the numbers before.
-/
namespace Reindexing.Http.Punycode

def digit? (c : Char) : Option Nat :=
  if 'a' ≤ c && c ≤ 'z' then some (c.toNat - 'a'.toNat)
  else if '0' ≤ c && c ≤ '9' then some (c.toNat - '0'.toNat + 26)
  else none

def digitChar (d : Nat) : Char := Char.ofNat (if d < 26 then 'a'.toNat + d else '0'.toNat + d - 26)

/-- A digit below this is the last one of its number. -/
def threshold (place bias : Nat) : Nat := if place ≤ bias then 1 else if bias + 26 ≤ place then 26 else place - bias

/-- Makes a number small, and counts the places that takes. -/
def shrink : Nat → Nat → Nat × Nat
  | 0, n => (n, 0)
  | fuel + 1, n =>
    if n ≤ 455 then (n, 0)
    else
      let (small, places) := shrink fuel (n / 35)
      (small, places + 36)

/-- The bias behind a number in a text that has some length by then. -/
def adapt (n length : Nat) (isFirst : Bool) : Nat :=
  let n := if isFirst then n / 700 else n / 2
  let (small, places) := shrink n (n + n / length)
  places + 36 * small / (small + 38)

/-- The bias before the first number. -/
def firstBias : Nat := 72

/-- Reads a number of which some digits have been read, and gives what follows it. -/
def readNumber? (bias : Nat) : Nat → Nat → Nat → List Char → Option (Nat × List Char)
  | _, _, _, [] => none
  | place, weight, sum, c :: rest =>
    (digit? c).bind fun d =>
      let t := threshold place bias
      if d < t then some (sum + d * weight, rest)
      else readNumber? bias (place + 36) (weight * (36 - t)) (sum + d * weight) rest

/-- Puts characters into a text. The next one is at least `code`, and at `place` at the earliest. -/
def insertAll : Nat → Nat → Nat → Nat → List Char → List Char → Option (List Char)
  | _, _, _, _, text, [] => some text
  | 0, _, _, _, _, _ => none
  | fuel + 1, bias, code, place, text, digits =>
    (readNumber? bias 36 1 0 digits).bind fun (n, rest) =>
      let length := text.length + 1
      let code := code + (place + n) / length
      let spot := (place + n) % length
      if code.isValidChar then
        insertAll fuel (adapt n length (place == 0)) code (spot + 1) (text.insertIdx spot (Char.ofNat code)) rest
      else none

def isAscii (c : Char) : Bool := c.toNat < 0x80

/-- The text that is written so. -/
def decode? (cs : List Char) : Option (List Char) :=
  let digits := (cs.reverse.takeWhile (· != '-')).reverse
  let plain := cs.take (cs.length - digits.length - 1)
  if plain.all isAscii then insertAll digits.length firstBias 0x80 0 plain digits else none

/-- The digits of a number. -/
def writeNumber (bias : Nat) : Nat → Nat → Nat → List Char
  | 0, _, _ => []
  | fuel + 1, place, n =>
    let t := threshold place bias
    if n < t then [digitChar n]
    else digitChar (t + (n - t) % (36 - t)) :: writeNumber bias fuel (place + 36) ((n - t) / (36 - t))

/-- What has been written of a text. -/
structure Draft where
  digits : List Char
  /-- How many places have been skipped. -/
  skipped : Nat
  bias : Nat
  /-- How many characters are in the text by then. -/
  length : Nat
  deriving DecidableEq, Repr

/-- Passes a character where those below `code` have been put. -/
def Draft.pass (plain code : Nat) (d : Draft) (c : Char) : Draft :=
  if c.toNat < code then { d with skipped := d.skipped + 1 }
  else if c.toNat = code then
    ⟨d.digits ++ writeNumber d.bias (d.skipped + 1) 36 d.skipped, 0,
      adapt d.skipped (d.length + 1) (d.length == plain), d.length + 1⟩
  else d

/-- Writes the characters with one code point after another, in increasing order from `code` on. -/
def Draft.putAll (plain : Nat) (text : List Char) : Draft → Nat → List Nat → Draft
  | d, _, [] => d
  | d, code, next :: rest =>
    let d := { d with skipped := d.skipped + (next - code) * (d.length + 1) }
    let d := text.foldl (pass plain next) d
    putAll plain text { d with skipped := d.skipped + 1 } (next + 1) rest

def encode (text : List Char) : List Char :=
  let plain := text.filter isAscii
  let others := (((text.filter fun c => !isAscii c).map Char.toNat).mergeSort (· ≤ ·)).eraseDups
  let written := Draft.putAll plain.length text ⟨[], 0, firstBias, plain.length⟩ 0x80 others
  plain ++ (if plain.isEmpty then [] else ['-']) ++ written.digits

end Reindexing.Http.Punycode
