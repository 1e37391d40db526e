import Reindexing.Text.Lowercase

/-!
# Patterns

A pattern describes texts. Of the ways to find it in a text the first one counts:
the one that starts furthest to the left, and of those the one that its choices
prefer. To be matched, a pattern is turned into steps that take a character, check a
place, or fork. A text is passed character by character with a list of steps to go on
from, the preferred ones first. When one of them is at the end of the pattern, those
behind it are given up. A text matches when the end of the pattern is met at its end.
Patterns are read elsewhere.

What a step takes is a set of characters, given by ranges, by what it lacks, and by
other sets. A set can be widened to what differs from its characters in case only: two
characters are the same up to case when their lowercase forms are, apart from a few
letters that have a second lowercase form.
-/
namespace Reindexing.Text

/-! ### Sets of characters -/

/-- Lowercase letters that are the same up to case, with a letter that stands for all of them. -/
def foldPairs : List (Nat × Nat) :=
  [(0x17f, 0x73), (0x3b9, 0x345), (0x3bc, 0xb5), (0x3c3, 0x3c2), (0x3d0, 0x3b2), (0x3d1, 0x3b8),
   (0x3d5, 0x3c6), (0x3d6, 0x3c0), (0x3f0, 0x3ba), (0x3f1, 0x3c1), (0x3f5, 0x3b5), (0x1c80, 0x432),
   (0x1c81, 0x434), (0x1c82, 0x43e), (0x1c83, 0x441), (0x1c84, 0x442), (0x1c85, 0x442),
   (0x1c86, 0x44a), (0x1c87, 0x463), (0x1e9b, 0x1e61), (0x1fbe, 0x345), (0x1fd3, 0x390),
   (0x1fe3, 0x3b0), (0xa64b, 0x1c88), (0xfb06, 0xfb05)]

/-- The lowercase form of a character, if that is one character. -/
def simpleLowercase (c : Char) : Char :=
  match lowercaseChar c with
  | [d] => d
  | _ => c

/-- The characters whose lowercase form is `n`, by their code points. -/
def uppercasesOf (n : Nat) : List Nat :=
  let rows := lowercaseRows.filterMap fun (lo, hi, step, shift) =>
    let m := ((n : Int) - shift).toNat
    if lo ≤ m && m ≤ hi && (m - lo) % step == 0 then some m else none
  if 'a'.toNat ≤ n && n ≤ 'z'.toNat then (n - 32) :: rows else rows

/-- The characters that are the same as a character up to case. -/
def sameUpToCase (c : Char) : List Char :=
  let low := (simpleLowercase c).toNat
  let base := (foldPairs.lookup low).getD low
  let lows := base :: (foldPairs.filter fun p => p.2 == base).map (·.1)
  c :: (lows ++ lows.flatMap uppercasesOf).map Char.ofNat

inductive CharSet where
  | ranges (rs : List (Nat × Nat))
  | complement (s : CharSet)
  | union (a b : CharSet)
  | inter (a b : CharSet)
  /-- Characters up to case: that of all letters, or that of ASCII letters. -/
  | anyCase (wide : Bool) (s : CharSet)
  deriving DecidableEq, Repr, Inhabited

namespace CharSet

def empty : CharSet := .ranges []

def single (c : Char) : CharSet := .ranges [(c.toNat, c.toNat)]

def minus (a b : CharSet) : CharSet := .inter a (.complement b)

/-- What is in one of two sets only. -/
def differ (a b : CharSet) : CharSet := .union (minus a b) (minus b a)

def contains : CharSet → Char → Bool
  | .ranges rs, c => inRanges rs c
  | .complement s, c => !s.contains c
  | .union a b, c => a.contains c || b.contains c
  | .inter a b, c => a.contains c && b.contains c
  | .anyCase wide s, c =>
    if wide then (sameUpToCase c).any fun d => s.contains d
    else s.contains c || s.contains c.toLower || s.contains c.toUpper

/-- Whether a set has no characters outside of ASCII, if none of its ranges ends between them. -/
def isAscii (s : CharSet) : Bool := (List.range 128).all fun i => !s.contains (Char.ofNat (128 + i))

end CharSet

/-! ### Places and steps -/

/-- A place between two characters of a text, or at its start or end. -/
inductive Place where
  | textStart
  | textEnd
  | lineStart
  | lineEnd
  /-- Like `lineStart`, where lines may end with a carriage return and a line feed. -/
  | anyLineStart
  | anyLineEnd
  | wordEdge
  | noWordEdge
  | wordStart
  | wordEnd
  deriving DecidableEq, Repr

namespace Place

def isWordChar (c : Char) : Bool := c.isAlphanum || c = '_'

/-- Whether a place is between the given characters. -/
def holds (before after : Option Char) : Place → Bool
  | textStart => before.isNone
  | textEnd => after.isNone
  | lineStart => before.all (· = '\n')
  | lineEnd => after.all (· = '\n')
  | anyLineStart => before.all fun c => c = '\n' || (c = '\r' && after != some '\n')
  | anyLineEnd => after.all fun c => c = '\r' || (c = '\n' && before != some '\r')
  | wordEdge => before.any isWordChar != after.any isWordChar
  | noWordEdge => before.any isWordChar == after.any isWordChar
  | wordStart => !before.any isWordChar && after.any isWordChar
  | wordEnd => before.any isWordChar && !after.any isWordChar

end Place

inductive Pattern where
  | empty
  | char (s : CharSet)
  | place (p : Place)
  | seq (a b : Pattern)
  /-- The first one is preferred. -/
  | either (a b : Pattern)
  /-- At most once; `greedy` prefers once. -/
  | optional (greedy : Bool) (p : Pattern)
  /-- At least once; `greedy` prefers more. -/
  | many (greedy : Bool) (p : Pattern)
  deriving DecidableEq, Repr, Inhabited

/-! ### Matching -/

inductive Step where
  | take (s : CharSet) (next : Nat)
  | check (p : Place) (next : Nat)
  | fork (first second : Nat)
  | accept
  deriving Repr, Inhabited

namespace Pattern

/-- Adds steps for a pattern in front of a step, and tells where they start. -/
def addSteps : Pattern → Nat → Array Step → Nat × Array Step
  | .empty, next, steps => (next, steps)
  | .char s, next, steps => (steps.size, steps.push (.take s next))
  | .place p, next, steps => (steps.size, steps.push (.check p next))
  | .seq a b, next, steps =>
    let (second, steps) := b.addSteps next steps
    a.addSteps second steps
  | .either a b, next, steps =>
    let (second, steps) := b.addSteps next steps
    let (first, steps) := a.addSteps next steps
    (steps.size, steps.push (.fork first second))
  | .optional greedy p, next, steps =>
    let (first, steps) := p.addSteps next steps
    (steps.size, steps.push (if greedy then .fork first next else .fork next first))
  | .many greedy p, next, steps =>
    let loop := steps.size
    let (first, steps) := p.addSteps loop (steps.push .accept)
    (first, steps.setIfInBounds loop (if greedy then .fork first next else .fork next first))

end Pattern

/-- A pattern as steps. -/
structure Program where
  steps : Array Step
  start : Nat
  deriving Repr

namespace Program

/-- The steps that find a pattern anywhere; to start later comes last. -/
def ofPattern (p : Pattern) : Program :=
  let (start, steps) := (Pattern.seq (.optional false (.many false (.char (.complement .empty)))) p).addSteps 0 #[.accept]
  ⟨steps, start⟩

/-- The steps that take a character or accept, in the order in which they are met between two characters. -/
def reach (steps : Array Step) (before after : Option Char) (seen found : List Nat) : Nat → List Nat → List Nat
  | 0, _ => found.reverse
  | _, [] => found.reverse
  | fuel + 1, i :: rest =>
    if seen.contains i then reach steps before after seen found fuel rest
    else
      let seen := i :: seen
      match steps[i]? with
      | some (.fork first second) => reach steps before after seen found fuel (first :: second :: rest)
      | some (.check p next) =>
        reach steps before after seen found fuel (if p.holds before after then next :: rest else rest)
      | some (.take _ _) | some .accept => reach steps before after seen (i :: found) fuel rest
      | none => reach steps before after seen found fuel rest

def isAccept (steps : Array Step) (i : Nat) : Bool :=
  match steps[i]? with
  | some .accept => true
  | _ => false

/-- Where a step leads with a character. -/
def take? (steps : Array Step) (c : Char) (i : Nat) : Option Nat :=
  match steps[i]? with
  | some (.take s next) => if s.contains c then some next else none
  | _ => none

/-- Whether a text behind a character matches from some steps on. -/
def runFrom (steps : Array Step) (before : Option Char) (at_ : List Nat) : List Char → Bool
  | [] => (reach steps before none [] [] (2 * steps.size + at_.length + 1) at_).any (isAccept steps)
  | c :: rest =>
    let reached := reach steps before (some c) [] [] (2 * steps.size + at_.length + 1) at_
    let open_ := reached.takeWhile fun i => !isAccept steps i
    let next := open_.filterMap (take? steps c)
    !next.isEmpty && runFrom steps (some c) next rest

end Program

/-- Whether a text is found by a pattern up to its end. -/
def Pattern.matchesEnd (p : Pattern) (s : String) : Bool :=
  let program := Program.ofPattern p
  Program.runFrom program.steps none [program.start] s.toList

end Reindexing.Text
