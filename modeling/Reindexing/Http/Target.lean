import Reindexing.Http.Message
import Reindexing.Json.Document
import Reindexing.Text.Search
import Reindexing.Text.Utf8

/-!
# Request targets

A target is a path with an optional query, perhaps behind a scheme and an
authority; a fragment is dropped. Some characters cannot stand in a target. What
is percent-encoded is decoded only when a part of the target is used.
-/
namespace Reindexing.Http

structure Target where
  path : String
  query : Option String
  deriving DecidableEq, Repr

namespace Target

def isPathChar (c : Char) : Bool :=
  0x21 ≤ c.toNat && c != '#' && c != '<' && c != '>' && c != '?' && c.toNat != 0x60 && c.toNat != 0x7f

def isQueryChar (c : Char) : Bool :=
  0x21 ≤ c.toNat && c != '"' && c != '#' && c != '<' && c != '>' && c.toNat != 0x7f

/-- Reads a path with an optional query. -/
def ofPath? (cs : List Char) : Option Target :=
  let cs := cs.takeWhile (· != '#')
  let path := cs.takeWhile (· != '?')
  let query := (cs.dropWhile (· != '?')).tail?
  if path.all isPathChar && (query.getD []).all isQueryChar then
    some ⟨if path.isEmpty then "/" else String.ofList path, query.map String.ofList⟩
  else none

def isSchemeChar (c : Char) : Bool := c.isAlphanum || "+-.~".toList.contains c

def isAuthorityChar (c : Char) : Bool := c.isAlphanum || "!$%&'()*+,-.:;=@[]_~".toList.contains c

/-- What has been met of an authority: behind the user part and the brackets only a port may follow. -/
structure AuthorityState where
  colons : Nat
  opened : Bool
  closed : Bool
  hasPercent : Bool
  deriving DecidableEq, Repr

/-- How many colons an address in brackets may have. -/
def mostColons : Nat := 8

/-- Passes a character of an authority. Brackets may stand once. -/
def passAuthority? (a : AuthorityState) (c : Char) : Option AuthorityState :=
  if !isAuthorityChar c then none
  else match c with
    | ':' => if mostColons ≤ a.colons then none else some { a with colons := a.colons + 1 }
    | '[' => if a.hasPercent || a.opened then none else some { a with opened := true }
    | ']' => if !a.opened || a.closed then none else some { a with closed := true, colons := 0, hasPercent := false }
    | '@' => some { a with colons := 0, hasPercent := false }
    | '%' => some { a with hasPercent := true }
    | _ => some a

/-- Whether an authority is well-formed: brackets pair up, at most one colon stands before a port,
nothing is percent-encoded outside the user part and the brackets, and a host follows the user part. -/
def isAuthority (cs : List Char) : Bool :=
  cs.getLast? != some '@' && match cs.foldlM passAuthority? ⟨0, false, false, false⟩ with
    | some a => a.opened == a.closed && a.colons ≤ 1 && !a.hasPercent
    | none => false

def longestScheme : Nat := 64

/-- What follows the scheme, if there is one. -/
def afterScheme? (cs : List Char) : Option (List Char) :=
  match cs.dropWhile isSchemeChar with
  | ':' :: '/' :: '/' :: rest => some rest
  | _ => none

/-- The greatest length of a target, in bytes. -/
def longest : Nat := 65534

/-- Reads a target in any of its forms. -/
def ofText? (s : String) : Option Target :=
  let cs := if s.utf8ByteSize ≤ longest then s.toList else []
  match cs with
  | [] => none
  | ['*'] => some ⟨"*", none⟩
  | '/' :: _ => ofPath? cs
  | _ =>
    match afterScheme? cs with
    | none => if isAuthority cs then some ⟨"", none⟩ else none
    | some rest =>
      let isEnd (c : Char) : Bool := c == '/' || c == '?' || c == '#'
      let authority := rest.takeWhile (!isEnd ·)
      let isShort := (cs.takeWhile isSchemeChar).length ≤ longestScheme
      if isAuthority authority && !authority.isEmpty && isShort then ofPath? (rest.dropWhile (!isEnd ·)) else none

end Target

def hexByte? (b : UInt8) : Option UInt8 := (Json.hexValue? (Char.ofNat b.toNat)).map fun n => n.toUInt8

/-- Decodes `%` with two hexadecimal digits; any other `%` stands for itself. -/
def percentDecode : List UInt8 → List UInt8
  | 0x25 :: a :: b :: rest =>
    match hexByte? a, hexByte? b with
    | some high, some low => (16 * high + low) :: percentDecode rest
    | _, _ => 0x25 :: percentDecode (a :: b :: rest)
  | b :: rest => b :: percentDecode rest
  | [] => []
termination_by bytes => bytes.length

/-- A name or value of a query, in which `+` is a blank. -/
def decodeComponent (cs : List Char) : String :=
  Text.ofUtf8Lenient (percentDecode (Text.utf8 (String.ofList (cs.map fun c => if c = '+' then ' ' else c))))

/-- The pairs of a query; empty parts do not count. -/
def queryPairs (query : String) : List (String × String) :=
  ((Text.splitAt (· == '&') query.toList).filter fun part => !part.isEmpty).map fun part =>
    match Text.splitFirst '=' part with
    | some (name, value) => (decodeComponent name, decodeComponent value)
    | none => (decodeComponent part, "")

/-- A segment of a path, decoded. -/
def decodeSegment? (segment : String) : Option String := Text.ofUtf8? (percentDecode (Text.utf8 segment))

def isTokenChar (c : Char) : Bool := c.isAlphanum || "!#$%&'*+-.^_|~".toList.contains c || c.toNat == 0x60

def isToken (s : String) : Bool := s != "" && s.toList.all isTokenChar

/-- A header value has no control characters but tabs. -/
def isHeaderValue (s : String) : Bool := s.toList.all fun c => (0x20 ≤ c.toNat && c.toNat != 0x7f) || c == '\t'

/-- Builds a request if its parts are well-formed. -/
def Request.ofParts? (method target : String) (headers : List (String × String)) (body : String) :
    Option Request :=
  match Target.ofText? target with
  | none => none
  | some target =>
    if isToken method && headers.all fun (name, value) => isToken name && isHeaderValue value then
      some ⟨method, target.path, target.query, headers.map fun (name, value) => (name.toLower, value), body⟩
    else none

end Reindexing.Http
