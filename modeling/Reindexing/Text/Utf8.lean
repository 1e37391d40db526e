/-!
# UTF-8

Bytes are read as characters. Where they are ill-formed, the longest start of a
character that cannot be completed, or else a single byte, is one fault. A
strict reader refuses faults; a lenient one puts a replacement character in
their place.
-/
namespace Reindexing.Text

/-- A character whose first bytes have been read. -/
structure PartialChar where
  value : Nat
  /-- The bounds of the next byte. -/
  low : Nat
  high : Nat
  /-- How many bytes are missing. -/
  left : Nat
  deriving DecidableEq, Repr

/-- What the first byte of a character gives: the character or a fault, or a character to be completed. -/
def startChar (b : Nat) : List (Option Char) × Option PartialChar :=
  if b < 0x80 then ([some (Char.ofNat b)], none)
  else if b < 0xc2 then ([none], none)
  else if b < 0xe0 then ([], some ⟨b - 0xc0, 0x80, 0xbf, 1⟩)
  else if b = 0xe0 then ([], some ⟨0, 0xa0, 0xbf, 2⟩)
  else if b = 0xed then ([], some ⟨0xd, 0x80, 0x9f, 2⟩)
  else if b < 0xf0 then ([], some ⟨b - 0xe0, 0x80, 0xbf, 2⟩)
  else if b = 0xf0 then ([], some ⟨0, 0x90, 0xbf, 3⟩)
  else if b < 0xf4 then ([], some ⟨b - 0xf0, 0x80, 0xbf, 3⟩)
  else if b = 0xf4 then ([], some ⟨4, 0x80, 0x8f, 3⟩)
  else ([none], none)

/-- The characters of bytes; `none` is a fault. -/
def decodeFrom (pending : Option PartialChar) : List UInt8 → List (Option Char)
  | [] => if pending.isSome then [none] else []
  | b :: rest =>
    let b := b.toNat
    match pending with
    | some p =>
      if p.low ≤ b ∧ b ≤ p.high then
        let value := p.value * 64 + b % 64
        if p.left = 1 then some (Char.ofNat value) :: decodeFrom none rest
        else decodeFrom (some ⟨value, 0x80, 0xbf, p.left - 1⟩) rest
      else
        let (chars, next) := startChar b
        none :: (chars ++ decodeFrom next rest)
    | none =>
      let (chars, next) := startChar b
      chars ++ decodeFrom next rest

def utf8 (s : String) : List UInt8 := s.toList.flatMap String.utf8EncodeChar

/-- The text of well-formed bytes. -/
def ofUtf8? (bytes : List UInt8) : Option String := ((decodeFrom none bytes).mapM id).map String.ofList

/-- The text of bytes, in which a replacement character stands for each fault. -/
def ofUtf8Lenient (bytes : List UInt8) : String :=
  String.ofList ((decodeFrom none bytes).map fun c => c.getD '\ufffd')

end Reindexing.Text
