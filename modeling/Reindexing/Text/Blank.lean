/-!
# Blank characters and trimming

The blank characters are those with the Unicode property White_Space. Trimming
removes the longest blank prefix and the longest blank suffix; what is left
neither starts nor ends with a blank character.
-/
namespace Reindexing.Text

/-- Inclusive code point ranges with the property White_Space. -/
def blankRanges : List (Nat × Nat) :=
  [(0x09, 0x0d), (0x20, 0x20), (0x85, 0x85), (0xa0, 0xa0), (0x1680, 0x1680), (0x2000, 0x200a),
   (0x2028, 0x2029), (0x202f, 0x202f), (0x205f, 0x205f), (0x3000, 0x3000)]

/-- Whether a character is in one of some inclusive ranges of code points. -/
def inRanges (ranges : List (Nat × Nat)) (c : Char) : Bool :=
  ranges.any fun (lo, hi) => decide (lo ≤ c.toNat) && decide (c.toNat ≤ hi)

def isBlank (c : Char) : Bool := inRanges blankRanges c

/-- The list without its longest suffix of characters that satisfy `p`. -/
def dropEnd (p : Char → Bool) (cs : List Char) : List Char :=
  (cs.reverse.dropWhile p).reverse

def trimStartChars (cs : List Char) : List Char := cs.dropWhile isBlank

def trimChars (cs : List Char) : List Char := dropEnd isBlank (trimStartChars cs)

def trim (s : String) : String := String.ofList (trimChars s.toList)

/-- A text is blank when trimming leaves nothing of it. -/
def isBlankText (s : String) : Bool := s.toList.all isBlank

end Reindexing.Text
