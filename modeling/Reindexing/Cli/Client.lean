import Reindexing.Cli.Answer
import Reindexing.Cli.Session
import Reindexing.Http.MediaType
import Reindexing.Http.Message
import Reindexing.Http.Url
import Reindexing.Text.Charset

/-!
# Asking a server

How an operator's program calls a server and takes the answer apart, and all that
may go wrong on the way: no request can be made, no server answers, the server
refuses, or what it says is not understood.
-/
namespace Reindexing.Cli

/-- Why a command has no result. -/
inductive Fault where
  /-- The address of the server is none. -/
  | unsendable (label : String)
  | unreachable (label : String)
  /-- Servers send the caller from one address to the next. -/
  | endless (label : String) (url : Http.Url)
  /-- The server reports an error. -/
  | rejected (status : Nat) (answer : ErrorAnswer)
  /-- The server fails without a report. -/
  | unexpected (status : Nat) (body : String)
  | unreadable (source : String)
  /-- The body of a reply breaks off or is broken, so that something cannot be done. -/
  | broken (deed : String) (fault : Http.BodyFault)
  | unsuccessful (reason : Option String)
  | noData
  | malformedSettings
  /-- Something cannot be done to a file. -/
  | disk (deed file : String) (fault : DiskError)
  deriving DecidableEq, Repr

def Fault.message : Fault → String
  | .unsendable label => label ++ " failed: builder error"
  | .unreachable label => label ++ " failed: error sending request"
  | .endless label url =>
    label ++ " failed: error following redirect for url (" ++ url.toText ++ "): too many redirects: too many redirects"
  | .rejected status answer => answer.code ++ " (" ++ Http.statusText status ++ "): " ++ answer.message
  | .unexpected status body => "API error (" ++ Http.statusText status ++ "): " ++ body
  | .broken deed fault =>
    let reading := "error reading a body from connection: " ++ fault.message
    "Failed to " ++ deed ++ ": request or response body error: " ++ reading ++ ": " ++ reading ++ ": " ++ fault.message
  | .unreadable source => "Failed to parse response from " ++ source ++ ": error decoding response body"
  | .unsuccessful reason => "API error: " ++ reason.getD "Unknown error"
  | .noData => "API returned success but no data"
  | .malformedSettings => "Failed to parse config file"
  | .disk deed file fault => "Failed to " ++ deed ++ " " ++ file ++ ": " ++ fault.message

/-- A session that may fail. -/
abbrev Attempt := ExceptT Fault Session

/-- A server at an address, and what stands between. -/
structure Client where
  address : String
  proxies : Http.Proxies
  deriving DecidableEq, Repr

namespace Client

/-- Slashes at the end of an address do not count. -/
def ofAddress (address : String) (proxies : Http.Proxies) : Client :=
  ⟨String.ofList (Text.dropEnd (· == '/') address.toList), proxies⟩

def label (c : Client) (method path : String) : String := method ++ " " ++ c.address ++ path

/-- The address that a path has on the server. -/
def url? (c : Client) (path : String) : Option Http.Url := Http.Url.ofText? (c.address ++ path)

/-- The body of a reply as text, in the character set that the reply names. -/
def textOf (reply : Http.Arrival) : Except Http.BodyFault String :=
  let charset := ((reply.textHeader? "content-type").bind Http.MediaType.ofText?).bind (·.charset?)
  reply.body.map fun bytes => Text.decodeAs charset bytes

/-- What a reply without success says; a broken body says nothing. -/
def faultOf (reply : Http.Arrival) : Fault :=
  let body := (textOf reply).toOption.getD ""
  match Json.decodeText errorReport.read body with
  | .ok answer => .rejected reply.status answer
  | .error _ => .unexpected reply.status body

/-- Where a reply sends the caller, if anywhere. -/
def elsewhere? (url : Http.Url) (reply : Http.Arrival) : Option Http.Url.Destination :=
  if [301, 302, 303, 307, 308].contains reply.status then
    ((reply.header? "location").bind Text.ofUtf8?).bind url.join?
  else none

/-- The same call at another address; some replies ask only to look there. -/
def moved (call : Call) (status : Nat) (url : Http.Url) : Call :=
  if [307, 308].contains status then { call with url } else ⟨"GET", url, none, none, ""⟩

/-- Asks a server, and asks elsewhere as long as it says so. -/
def ask (c : Client) (label : String) : Nat → Call → Attempt Http.Arrival
  | moves, call => do
    let call := { call with proxy := c.proxies.for? call.url }
    match ← (Session.ask call .done : Session (Option Http.Arrival)) with
    | none => throw (.unreachable label)
    | some reply =>
      match elsewhere? call.url reply, moves with
      | none, _ => pure reply
      | some _, 0 => throw (.endless label call.url)
      | some .elsewhere, _ => throw (.unsendable label)
      | some (.address url), moves + 1 => ask c label moves (moved call reply.status url)

/-- How often a caller is sent elsewhere before giving up. -/
def maxMoves : Nat := 9

/-- Asks the server, and wants success. -/
def send (c : Client) (method path : String) (query : List (String × String)) (body : Option Json) :
    Attempt Http.Arrival := do
  match c.url? path with
  | none => throw (.unsendable (c.label method path))
  | some url =>
    let call : Call := ⟨method, url.withPairs query, none, body.map fun _ => "application/json",
      (body.map Json.compact).getD ""⟩
    let reply ← c.ask (c.label method path) maxMoves call
    if Http.isSuccess reply.status then pure reply else throw (faultOf reply)

/-- The value in the body of a reply. -/
def valueOf (decoder : Json.Decoder α) (source : String) (reply : Http.Arrival) : Except Fault α :=
  match reply.body with
  | .error fault => .error (.broken ("parse response from " ++ source) fault)
  | .ok bytes =>
    match (Text.ofUtf8? bytes).map (Json.decodeText decoder) with
    | some (.ok a) => .ok a
    | _ => .error (.unreadable source)

/-- The data in a reply. -/
def dataOf (data : Json.Decoder α) (label : String) (reply : Http.Arrival) : Except Fault α := do
  match ← valueOf (readEnvelope data) label reply with
  | ⟨true, some a, _⟩ => pure a
  | ⟨true, none, _⟩ => throw .noData
  | ⟨false, _, reason⟩ => throw (.unsuccessful reason)

def get (c : Client) (codec : Json.Codec α) (path : String) (query : List (String × String)) : Attempt α := do
  let reply ← c.send "GET" path query none
  ExceptT.mk (pure (dataOf codec.read (c.label "GET" path) reply))

def post (c : Client) (codec : Json.Codec α) (path : String) (body : Json) : Attempt α := do
  let reply ← c.send "POST" path [] (some body)
  ExceptT.mk (pure (dataOf codec.read (c.label "POST" path) reply))

/-- Deletes what is at a path; the body of the reply does not matter. -/
def delete (c : Client) (path : String) (query : List (String × String)) : Attempt Unit := do
  let _ ← c.send "DELETE" path query none

/-- The body of a reply as text, with the value of a header field. -/
def getText (c : Client) (path header : String) : Attempt (String × Option String) := do
  let reply ← c.send "GET" path [] none
  match textOf reply with
  | .ok text => pure (text, reply.textHeader? header)
  | .error fault => throw (.broken ("read response from " ++ c.address ++ path) fault)

/-- The body of a reply as a value. -/
def getRaw (c : Client) (path : String) : Attempt Json := do
  let reply ← c.send "GET" path [] none
  ExceptT.mk (pure (valueOf Json.Decode.anything (c.address ++ path) reply))

end Client

end Reindexing.Cli
