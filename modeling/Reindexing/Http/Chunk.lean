import Reindexing.Json.Document
import Reindexing.Word

/-!
# Chunks

A body of unknown length travels in chunks. Each has a line with its length in
hexadecimal digits and with remarks that do not matter, and ends with a line end; a
chunk without any bytes is the last one. Lines of no interest may follow it.
-/
namespace Reindexing.Http

/-- Why a body has no end. -/
inductive BodyFault where
  /-- The bytes end inside of the body. -/
  | incomplete
  /-- The bytes end where a line is to tell a length. -/
  | noLine
  | noSize
  | wrongSize
  | longSize
  | wrongBlank
  | wrongRemark
  | wrongSizeEnd
  | wrongReturn
  | wrongEnd
  | wrongTrailerEnd
  | wrongClosing
  deriving DecidableEq, Repr

def BodyFault.message : BodyFault → String
  | .incomplete => "end of file before message length reached"
  | .noLine => "unexpected EOF during chunk size line"
  | .noSize => "Invalid chunk size line: missing size digit"
  | .wrongSize => "Invalid chunk size line: Invalid Size"
  | .longSize => "invalid chunk size: overflow"
  | .wrongBlank => "Invalid chunk size linear white space"
  | .wrongRemark => "invalid chunk extension contains newline"
  | .wrongSizeEnd => "Invalid chunk size LF"
  | .wrongReturn => "Invalid chunk body CR"
  | .wrongEnd => "Invalid chunk body LF"
  | .wrongTrailerEnd => "Invalid trailer end LF"
  | .wrongClosing => "Invalid chunk end LF"

namespace Chunk

/-- Where the next byte stands. -/
inductive Place where
  | start
  | size
  | blank
  | remark
  | sizeEnd
  | inside
  | bodyReturn
  | bodyEnd
  | trailer
  | trailerEnd
  | closing
  | lastByte
  | behind
  deriving DecidableEq, Repr

structure Reader where
  place : Place
  /-- The bytes of the chunk that are missing. -/
  left : Nat
  /-- What has been read, in reverse. -/
  body : List UInt8
  deriving DecidableEq, Repr

def hexValue? (b : UInt8) : Option Nat := Json.hexValue? (Char.ofNat b.toNat)

/-- What may stand behind the digits of a length. -/
def afterSize? (b : UInt8) : Option Place :=
  if b = 9 || b = 32 then some .blank
  else if b = 59 then some .remark
  else if b = 13 then some .sizeEnd
  else none

def expect (r : Reader) (isFit : Bool) (place : Place) (fault : BodyFault) : Except BodyFault Reader :=
  if isFit then .ok { r with place } else .error fault

/-- Takes a byte. -/
def step (r : Reader) (b : UInt8) : Except BodyFault Reader :=
  match r.place with
  | .start =>
    match hexValue? b with
    | some d => .ok { r with place := .size, left := d }
    | none => .error .noSize
  | .size =>
    match hexValue? b with
    | some d => if 16 * r.left + d ≤ Word.max64 then .ok { r with left := 16 * r.left + d } else .error .longSize
    | none =>
      match afterSize? b with
      | some place => .ok { r with place }
      | none => .error .wrongSize
  | .blank =>
    match afterSize? b with
    | some place => .ok { r with place }
    | none => .error .wrongBlank
  | .remark => expect r (b != 10) (if b = 13 then .sizeEnd else .remark) .wrongRemark
  | .sizeEnd => expect r (b == 10) (if r.left = 0 then .closing else .inside) .wrongSizeEnd
  | .inside => .ok ⟨if r.left = 1 then .bodyReturn else .inside, r.left - 1, b :: r.body⟩
  | .bodyReturn => expect r (b == 13) .bodyEnd .wrongReturn
  | .bodyEnd => expect r (b == 10) .start .wrongEnd
  | .trailer => .ok { r with place := if b = 13 then .trailerEnd else .trailer }
  | .trailerEnd => expect r (b == 10) .closing .wrongTrailerEnd
  | .closing => .ok { r with place := if b = 13 then .lastByte else .trailer }
  | .lastByte => expect r (b == 10) .behind .wrongClosing
  | .behind => .ok r

/-- The body whose chunks are all there. -/
def finish (r : Reader) : Except BodyFault (List UInt8) :=
  match r.place with
  | .behind => .ok r.body.reverse
  | .inside => .error .incomplete
  | _ => .error .noLine

/-- Joins the chunks of a body. -/
def join (bytes : List UInt8) : Except BodyFault (List UInt8) := do
  finish (← bytes.foldlM step ⟨.start, 0, []⟩)

end Chunk

end Reindexing.Http
