import Reindexing.Http.Chunk
import Reindexing.Http.Transfer
import Reindexing.Text.Lowercase

/-!
# Arriving responses

A response as a client gets it from the bytes of a connection, all of which have
arrived. Its head must be well-formed. Responses that only announce another one are
passed over. The body may break off or be broken even though its head is fine; how far
it reaches follows from the status and the head.
-/
namespace Reindexing.Http

structure Arrival where
  status : Nat
  /-- The names are in lowercase. -/
  headers : List (String × List UInt8)
  body : Except BodyFault (List UInt8)
  deriving Repr

/-- The text of bytes that are all visible ASCII, blanks or tabs. -/
def visibleText? (bytes : List UInt8) : Option String :=
  if bytes.all fun b => b = 9 || (32 ≤ b && b < 127) then some (String.ofList (bytes.map fun b => Char.ofNat b.toNat))
  else none

namespace Arrival

/-- Bytes of the value of a header field or of a phrase. -/
def isValueByte (b : UInt8) : Bool := b = 9 || (32 ≤ b && b != 127)

def charOf (b : UInt8) : Char := Char.ofNat b.toNat

def isNameByte (b : UInt8) : Bool := isTokenChar (charOf b)

/-- The status in a first line: three digits behind the version, with a phrase behind them. -/
def status? (line : List UInt8) : Option Nat :=
  let (version, rest) := line.splitAt 9
  let (digits, phrase) := rest.splitAt 3
  let isVersion := ["HTTP/1.0 ", "HTTP/1.1 "].contains (String.ofList (version.map charOf))
  let isPhrase := phrase.isEmpty || (phrase.head? == some 32 && phrase.all isValueByte)
  if isVersion && isPhrase && digits.length = 3 then
    (Decimal.readNat? (digits.map charOf)).filter (100 ≤ ·)
  else none

def isSpace (b : UInt8) : Bool := b = 9 || b = 32

/-- A header field: a name, a colon and a value without blanks around it. -/
def readField? (line : List UInt8) : Option (String × List UInt8) :=
  let name := line.takeWhile isNameByte
  match line.drop name.length with
  | 58 :: value =>
    if !name.isEmpty && value.all isValueByte then
      some ((String.ofList (name.map charOf)).toLower,
        ((value.dropWhile isSpace).reverse.dropWhile isSpace).reverse)
    else none
  | _ => none

/-- The greatest number of header fields. -/
def mostFields : Nat := 100

/-- Line ends before a head do not count. -/
def skipEmptyLines : List UInt8 → List UInt8
  | 13 :: 10 :: rest => skipEmptyLines rest
  | 10 :: rest => skipEmptyLines rest
  | bytes => bytes

def readHead? (bytes : List UInt8) : Option (Nat × List (String × List UInt8) × List UInt8) := do
  let (lines, rest) ← Message.splitHead [] [] (skipEmptyLines bytes)
  let first :: fields := lines | none
  let status ← status? first
  let headers ← fields.mapM readField?
  if headers.length ≤ mostFields then some (status, headers, rest) else none

def valuesOf (headers : List (String × List UInt8)) (name : String) : List (List UInt8) :=
  (headers.filter (·.1 = name)).map (·.2)

/-- Whether a body travels in chunks: that is the last of its codings. -/
def isChunked (codings : List (List UInt8)) : Bool :=
  ((codings.getLast?.bind visibleText?).bind fun line => (line.splitOn ",").getLast?).any fun coding =>
    Text.equalsIgnoringCase (Text.trim coding) "chunked"

/-- The length that one or several fields tell, if they all agree. -/
def length? (fields : List (List UInt8)) : Option Nat := do
  let items := (← fields.mapM visibleText?).flatMap fun line => line.splitOn ","
  let lengths ← items.mapM fun item => Decimal.readNat? (Text.trim item).toList
  let length ← lengths.head?
  if lengths.all (· = length) && length ≤ Word.max64 then some length else none

/-- The body behind a head; a status may rule it out. -/
def readBody? (status : Nat) (headers : List (String × List UInt8)) (rest : List UInt8) :
    Option (Except BodyFault (List UInt8)) :=
  let codings := valuesOf headers "transfer-encoding"
  let lengths := valuesOf headers "content-length"
  if status = 101 || status = 204 || status = 304 then some (.ok [])
  else if !codings.isEmpty then some (if isChunked codings then Chunk.join rest else .ok rest)
  else if lengths.isEmpty then some (.ok rest)
  else (length? lengths).map fun length => if rest.length < length then .error .incomplete else .ok (rest.take length)

/-- Whether a response only announces another one. -/
def isAnnouncement (status : Nat) : Bool := status < 200 && status != 101

/-- Reads a response behind at most `fuel` announcements. -/
def readFrom? : Nat → List UInt8 → Option Arrival
  | 0, _ => none
  | fuel + 1, bytes => do
    let (status, headers, rest) ← readHead? bytes
    if isAnnouncement status then readFrom? fuel rest
    else (readBody? status headers rest).map fun body => ⟨status, headers, body⟩

def ofBytes? (bytes : List UInt8) : Option Arrival := readFrom? (bytes.length + 1) bytes

/-- The first value of a header field. -/
def header? (a : Arrival) (name : String) : Option (List UInt8) := a.headers.lookup name

/-- The first value of a header field, if it can be read as text. -/
def textHeader? (a : Arrival) (name : String) : Option String := (a.header? name).bind visibleText?

end Arrival

end Reindexing.Http
