import Reindexing.Decimal.Digits
import Reindexing.Http.Chunk
import Reindexing.Http.Message
import Reindexing.Http.Target

/-!
# Messages on a connection

The bytes by which requests and responses travel. A message has a first line,
header fields and an empty line, and then a body, whose length is told in front
of it: as a whole, or chunk by chunk. What a server receives is read here; how
much of it is still missing cannot be told before the head is complete.
-/
namespace Reindexing.Http

/-- A message as it travels. -/
structure Message where
  firstLine : String
  /-- The names are in lowercase. -/
  headers : List (String × String)
  body : List UInt8
  deriving DecidableEq, Repr

namespace Message

def header? (m : Message) (name : String) : Option String := m.headers.lookup name

/-- The lines before the first empty line, and what comes after it; `line` holds the current line in reverse. -/
def splitHead (lines : List (List UInt8)) (line : List UInt8) : List UInt8 → Option (List (List UInt8) × List UInt8)
  | [] => none
  | b :: rest =>
    if b != 10 then splitHead lines (b :: line) rest
    else
      let whole := (if line.head? = some 13 then line.drop 1 else line).reverse
      if whole.isEmpty then some (lines.reverse, rest) else splitHead (whole :: lines) [] rest

/-- A header field: a name, a colon and a value. -/
def readField? (line : List UInt8) : Option (String × String) :=
  (Text.splitFirst ':' (Text.ofUtf8Lenient line).toList).map fun (name, value) =>
    ((String.ofList name).toLower, Text.trim (String.ofList value))

/-- Reads a message; `none` while some of it is missing. What has no length reaches as far as the bytes do. -/
def ofBytes? (bytes : List UInt8) : Option Message := do
  let (lines, rest) ← splitHead [] [] bytes
  let first :: fields := lines | none
  let m : Message := ⟨Text.ofUtf8Lenient first, fields.filterMap readField?, rest⟩
  if (m.header? "transfer-encoding").any fun coding => Text.contains coding.toLower "chunked" then
    pure { m with body := ← (Chunk.join rest).toOption }
  else
    match (m.header? "content-length").bind fun n => Decimal.readNat? n.toList with
    | some length => if rest.length < length then none else pure { m with body := rest.take length }
    | none => pure m

/-- The text of a message, in which the length of the body is told. -/
def toText (firstLine : String) (headers : List (String × String)) (body : String) : String :=
  let fields := headers ++ [("content-length", Decimal.ofNat body.utf8ByteSize), ("connection", "close")]
  String.join ((firstLine :: fields.map fun (name, value) => name ++ ": " ++ value).map (· ++ "\r\n")) ++
    "\r\n" ++ body

/-- The text of a response, in which only the number of the status is told. -/
def ofStatus (status : Nat) (headers : List (String × String)) (body : String) : String :=
  toText ("HTTP/1.1 " ++ Decimal.ofNat status) headers body

/-- The method and the target in the first line of a request. -/
def methodAndTarget? (m : Message) : Option (String × String) :=
  match m.firstLine.splitOn " " with
  | [method, target, _] => some (method, target)
  | _ => none

/-- The request that a message stands for. -/
def request? (m : Message) : Option Request := do
  let (method, target) ← m.methodAndTarget?
  Request.ofParts? method target m.headers (Text.ofUtf8Lenient m.body)

end Message

/-- The text of a response. -/
def Response.toMessageText (r : Response) : String :=
  let headers := match r.content with
    | .compressed _ => r.headers.filter (·.1 ≠ "content-encoding")
    | _ => r.headers
  Message.toText ("HTTP/1.1 " ++ statusText r.status) headers r.content.toText

end Reindexing.Http
