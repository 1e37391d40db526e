import Reindexing.Http.Target

/-!
# Media types and encodings

A media type is a type and a subtype, perhaps with a suffix behind the last plus
sign, and with parameters behind semicolons. JSON is the type `application` with
`json` as its subtype or suffix. A client names the encodings that it accepts,
each with a weight.
-/
namespace Reindexing.Http

structure MediaType where
  type : String
  subtype : String
  suffix : Option String
  /-- The names are in lowercase. -/
  parameters : List (String × String)
  deriving DecidableEq, Repr

namespace MediaType

/-- Characters of a quoted parameter value. -/
def isQuotedChar (c : Char) : Bool := c == '\t' || (0x20 ≤ c.toNat && c.toNat != 0x7f)

/-- A value behind its first quote, and what follows it: there is at least one character, which may be a quote. -/
def quoted? : List Char → Option (List Char × List Char)
  | [] => none
  | first :: rest =>
    let isInside (c : Char) : Bool := isQuotedChar c && c != '"'
    match rest.dropWhile isInside with
    | '"' :: after =>
      if isQuotedChar first then some (first :: rest.takeWhile isInside, after.dropWhile (· == ' ')) else none
    | _ => none

/-- A value without quotes, and what follows it; it may be empty only at the end. -/
def bare? (cs : List Char) : Option (List Char × List Char) :=
  match cs.takeWhile isTokenChar, cs.dropWhile isTokenChar with
  | [], _ :: _ => none
  | value, rest => some (value, rest)

/-- The parameters behind a semicolon. -/
def parameters? : Nat → List Char → Option (List (String × String))
  | 0, _ => none
  | fuel + 1, cs =>
    let cs := cs.dropWhile (· == ' ')
    let name := cs.takeWhile isTokenChar
    match cs.dropWhile isTokenChar with
    | '=' :: rest =>
      let read := match rest with
        | '"' :: rest => quoted? rest
        | _ => bare? rest
      let parameter (value : List Char) : String × String :=
        (String.ofList (name.map Char.toLower), String.ofList value)
      match name, read with
      | [], _ => none
      | _, some (value, []) => some [parameter value]
      | _, some (value, ';' :: rest) => (parameters? fuel rest).map (parameter value :: ·)
      | _, _ => none
    | _ => if cs.isEmpty then some [] else none

/-- A subtype with its suffix, which stands behind the last plus sign but not behind a leading one. -/
def splitSubtype (cs : List Char) : String × Option String :=
  let suffix := (cs.drop 1).reverse.takeWhile (· != '+')
  if (cs.drop 1).contains '+' then
    (String.ofList (cs.take (cs.length - suffix.length - 1)), some (String.ofList suffix.reverse))
  else (String.ofList cs, none)

def ofText? (s : String) : Option MediaType :=
  let cs := s.toList
  let type := cs.takeWhile isTokenChar
  match cs.dropWhile isTokenChar with
  | '/' :: rest =>
    let subtype := rest.takeWhile isTokenChar
    let parameters := match rest.dropWhile isTokenChar with
      | [] => some []
      | ';' :: rest => parameters? (rest.length + 1) rest
      | _ => none
    let (name, suffix) := splitSubtype (subtype.map Char.toLower)
    if type.isEmpty || subtype.isEmpty then none
    else parameters.map fun parameters => ⟨(String.ofList type).toLower, name, suffix, parameters⟩
  | _ => none

/-- The character set that is named. -/
def charset? (m : MediaType) : Option String := m.parameters.lookup "charset"

def isJson (m : MediaType) : Bool := m.type == "application" && (m.subtype == "json" || m.suffix == some "json")

end MediaType

/-- Thousandths of a weight from 0 to 1. -/
def weight? (s : String) : Option Nat :=
  match s.toList with
  | 'q' :: '=' :: w :: rest | 'Q' :: '=' :: w :: rest =>
    let places := rest.drop 1
    let fraction := (places.map fun c => c.toNat - '0'.toNat) ++ List.replicate (3 - places.length) 0
    let n := (w.toNat - '0'.toNat) * 1000 + fraction.foldl (fun n d => 10 * n + d) 0
    if (w == '0' || w == '1') && (rest.isEmpty || rest.head? == some '.') && places.length ≤ 3 &&
        places.all Decimal.isDigit && n ≤ 1000 then some n
    else none
  | _ => none

/-- The weight of one accepted encoding, for an encoding that is known. -/
def encodingWeight? (item : String) : Option (Bool × Nat) :=
  let (name, weight) := match Text.splitFirst ';' item.toList with
    | some (name, rest) => (String.ofList name, weight? (Text.trim (String.ofList rest)))
    | none => (item, some 1000)
  let isGzip? := match (Text.trim name).toLower with
    | "gzip" | "x-gzip" => some true
    | "identity" => some false
    | _ => none
  match isGzip?, weight with
  | some isGzip, some weight => some (isGzip, weight)
  | _, _ => none

/-- Whether a client prefers content to be compressed. -/
def Request.prefersGzip (r : Request) : Bool :=
  let values := ((r.headers.filter (·.1 = "accept-encoding")).map (·.2)).filter isReadable
  let accepted := (values.flatMap fun v => (Text.splitAt (· == ',') v.toList).map String.ofList).filterMap
    encodingWeight?
  let best (isGzip : Bool) : Nat := ((accepted.filter (·.1 = isGzip)).map (·.2)).foldl max 0
  best false ≤ best true && 0 < best true

/-- Content of this many bytes or more is worth compressing. -/
def compressionThreshold : Nat := 32

/-- Compresses the content of a response if the client prefers that and it is worth it. -/
def Response.compressFor (r : Response) (request : Request) : Response :=
  let text := r.content.toText
  if request.prefersGzip && compressionThreshold ≤ text.utf8ByteSize then
    { r.withHeader "content-encoding" "gzip" with content := .compressed text }
  else r

end Reindexing.Http
