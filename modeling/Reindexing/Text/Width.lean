import Reindexing.Text.Blank
import Reindexing.Text.Columns

/-!
# Display width

How many columns a text takes on a terminal. Ideographs, kana and pictographs
take two, marks that combine with the character before them none, and all other
characters one. Some sequences are narrower than their parts: pictographs that
are joined, coloured or selected, flags, and letters of some scripts that merge.
A text is measured from its end, so that each character knows what follows it.
-/
namespace Reindexing.Text

/-- What a selector asks for: a plain sign or a pictograph. -/
inductive Presentation
  | sign | picture
  deriving DecidableEq, Repr

/-- What stands to the right of a character, as far as it changes the columns of the character. -/
inductive Follower
  | plain
  | lineFeed
  | skinTone
  | flag | flags
  | picture
  | joinedPicture | joinedKeycap
  | joinedFlag | evenJoinedFlags | oddJoinedFlags
  | letterTags (count : Nat) | digitTags (count : Nat)
  | alef
  | lamed (joined : Bool)
  | ya (joined : Bool) | vowelYa
  | tifinagh (joined : Bool) | tifinaghJoiner
  | toneLetter
  | orkhonI (joined : Bool)
  | khmerLetter
  | kiratE | kiratAi
  deriving DecidableEq, Repr

namespace Follower

/-- Whether selectors between two letters leave them as they are. -/
def isScript : Follower → Bool
  | alef | lamed _ | ya _ | vowelYa | tifinagh _ | tifinaghJoiner | toneLetter | orkhonI _ | khmerLetter => true
  | _ => false

/-- Whether letters merge even when a joiner or an invisible mark stands between them. -/
def seesThroughMarks (f : Follower) : Bool := f.isScript && f != alef

/-- The follower with a joiner to its left. -/
def joined : Follower → Follower
  | lamed _ => lamed true
  | ya _ => ya true
  | tifinagh _ => tifinagh true
  | orkhonI _ => orkhonI true
  | f => f

end Follower

/-- What stands to the right of a character: a follower and perhaps a selector before it. -/
structure Right where
  follower : Follower
  selector : Option Presentation
  deriving DecidableEq, Repr

namespace Right

def none : Right := ⟨.plain, Option.none⟩

def ofFollower (f : Follower) : Right := ⟨f, Option.none⟩

/-- The right side with the selector of a pictograph to its left. -/
def select (r : Right) : Right :=
  let stays := r.follower.isScript ||
    ((r.follower == .joinedPicture || r.follower == .joinedKeycap) && r.selector != some .picture)
  ⟨if stays then r.follower else .plain, some .picture⟩

/-- The right side with the selector of a plain sign to its left. -/
def deselect (r : Right) : Right := ⟨if r.follower.isScript then r.follower else .plain, some .sign⟩

/-- The right side without its selector. -/
def unselect (r : Right) : Right := ofFollower (if r.follower.isScript then r.follower else .plain)

end Right

/-- The base columns of a character, and what it is to the character on its left. -/
def charColumns (c : Char) : Int × Follower :=
  let n := c.toNat
  if n ≤ 0xa0 then (1, if c = '\n' then .lineFeed else .plain)
  else if n = 0x5dc then (1, .lamed false)
  else if [0x622, 0x623, 0x625, 0x627, 0x671, 0x672, 0x673, 0x675, 0x773, 0x774].contains n ||
      (0x870 ≤ n && n ≤ 0x882) then (1, .alef)
  else if 0x1780 ≤ n && n ≤ 0x17af then
    (1, if [0x1783, 0x1788, 0x178d, 0x1794, 0x1799, 0x179a, 0x179e, 0x179f, 0x17a1, 0x17a3, 0x17a4, 0x17a5, 0x17a6,
      0x17a8, 0x17a9, 0x17aa, 0x17ad, 0x17ae].contains n then .plain else .khmerLetter)
  else if n = 0x17d8 then (3, .plain)
  else if n = 0x1a10 then (1, .ya false)
  else if (0x2d31 ≤ n && n ≤ 0x2d65) || n = 0x2d6f then (1, .tifinagh false)
  else if n = 0xa4fc || n = 0xa4fd then (1, .toneLetter)
  else if n = 0x10c03 then (1, .orkhonI false)
  else if n = 0x16d67 then (1, .kiratE)
  else if n = 0x16d68 then (1, .kiratAi)
  else if 0x1f1e6 ≤ n && n ≤ 0x1f1ff then (1, .flag)
  else if 0x1f3fb ≤ n && n ≤ 0x1f3ff then (2, .skinTone)
  else if inRanges pictureRanges c then (2, .picture)
  else if inRanges wideRanges c then (2, .plain)
  else if inRanges zeroRanges c then (0, .plain)
  else (1, .plain)

/-- Whether a mark takes no column and lets the letters around it join. -/
def isTransparentMark (c : Char) : Bool :=
  0xa0 < c.toNat && (charColumns c).1 = 0 && !inRanges opaqueMarkRanges c

/-- Marks that are never seen. -/
def isInvisibleMark (c : Char) : Bool :=
  inRanges [(0x34f, 0x34f), (0x17b4, 0x17b5), (0x180b, 0x180d), (0x180f, 0x180f), (0xfe00, 0xfe0f), (0xe0100, 0xe01ef)] c

/-- Whether a plain sign can be asked for where a pictograph would stand. -/
def hasSignForm (c : Char) : Bool :=
  inRanges selectableRanges c && inRanges pictureRanges c && !inRanges [(0x1f200, 0x1f2ff)] c

/-- The columns of a character that merges with what follows it, and what follows the next one. -/
def merged? (c : Char) (f : Follower) : Option (Int × Follower) :=
  let n := c.toNat
  let isFlag := 0x1f1e6 ≤ n && n ≤ 0x1f1ff
  let isLetterTag := 0xe0061 ≤ n && n ≤ 0xe007a
  let isDigitTag := 0xe0030 ≤ n && n ≤ 0xe0039
  let isTifinagh := (0x2d31 ≤ n && n ≤ 0x2d65) || n = 0x2d6f
  match f with
  | .alef =>
    if n = 0x644 || (0x6b5 ≤ n && n ≤ 0x6b8) || n = 0x76a || n = 0x8a6 || n = 0x8c7 then some (0, .plain)
    else if isTransparentMark c then some (0, .alef) else none
  | .lamed true => if n = 0x5d0 then some (0, .plain) else none
  | .khmerLetter => if n = 0x17d2 then some (-1, .plain) else none
  | .ya true => if n = 0x1a17 then some (0, .vowelYa) else none
  | .vowelYa => if n = 0x1a15 then some (0, .plain) else none
  | .tifinagh joined =>
    if n = 0x2d7f then some (1, .tifinaghJoiner)
    else if joined && isTifinagh then some (0, .plain) else none
  | .tifinaghJoiner => if isTifinagh then some (-1, .plain) else none
  | .toneLetter => if 0xa4f8 ≤ n && n ≤ 0xa4fb then some (0, .plain) else none
  | .orkhonI true => if n = 0x10c32 then some (0, .plain) else none
  | .kiratE =>
    if n = 0x16d63 || n = 0x16d69 then some (0, .plain)
    else if n = 0x16d67 || n = 0x16d68 then some (0, .kiratAi) else none
  | .kiratAi => if n = 0x16d63 then some (0, .plain) else none
  | .skinTone =>
    if inRanges modifierBaseRanges c then some (0, .picture)
    else if n = 0x200d then some (0, .joinedPicture) else none
  | .flag => if isFlag then some (1, .flags) else none
  | .flags =>
    if isFlag then some (1, .flags) else if n = 0x200d then some (0, .joinedPicture) else none
  | .picture => if n = 0x200d then some (0, .joinedPicture) else none
  | .evenJoinedFlags =>
    if n = 0x200d then some (0, .joinedPicture) else if isFlag then some (3, .oddJoinedFlags) else none
  | .oddJoinedFlags =>
    if n = 0x200d then some (0, .joinedPicture) else if isFlag then some (-1, .evenJoinedFlags) else none
  | .joinedFlag => if isFlag then some (-1, .evenJoinedFlags) else none
  | .joinedPicture =>
    if n = 0x20e3 then some (0, .joinedKeycap)
    else if isFlag then some (1, .joinedFlag)
    else if 0x1f3fb ≤ n && n ≤ 0x1f3ff then some (0, .skinTone)
    else if n = 0xe007f then some (0, .letterTags 0)
    else if (charColumns c).2 = .picture then some (0, .picture) else none
  | .letterTags k =>
    if isLetterTag && k < 6 then some (0, .letterTags (k + 1))
    else if isDigitTag && k < 5 then some (0, .digitTags 1)
    else if n = 0x1f3f4 && 3 ≤ k then some (0, .picture) else none
  | .digitTags k =>
    if isDigitTag && k < 3 then some (0, .digitTags (k + 1))
    else if n = 0x1f3f4 && k = 3 then some (0, .picture) else none
  | _ => none

/-- The columns a character adds before what is on its right, and the right side of the character before it. -/
def columns (c : Char) (right : Right) : Int × Right :=
  if right.selector = some .picture && inRanges selectableRanges c then
    (if right.follower = .joinedPicture || right.follower = .joinedKeycap then 0 else 2, .ofFollower .picture)
  else
    let right := if right.selector = some .picture then right.unselect else right
    if c = '\r' && right = .ofFollower .lineFeed then (0, .none)
    else if c.toNat ≤ 0xa0 then ((charColumns c).1, .ofFollower (charColumns c).2)
    else if c = '\ufe0f' then (0, right.select)
    else if c = '\ufe0e' then (0, right.deselect)
    else if right.selector = some .sign && hasSignForm c then (1, .none)
    else
      let follower := right.follower
      if follower.seesThroughMarks && c = '\u200d' then (0, .ofFollower follower.joined)
      else if follower.seesThroughMarks && isInvisibleMark c then (0, .ofFollower follower)
      else
        let (added, next) := (merged? c follower).getD (charColumns c)
        (added, .ofFollower next)

/-- The columns of a text on one line. -/
def width (s : String) : Nat :=
  (s.toList.foldr (fun c (sum, right) => let (added, right) := columns c right; (sum + added, right))
    ((0 : Int), Right.none)).1.toNat

end Reindexing.Text
