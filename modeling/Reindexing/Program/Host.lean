import Reindexing.Cli.Session
import Reindexing.Disk
import Reindexing.Http.Transfer
import Reindexing.Time.Instant
import Reindexing.Uuid
import Std.Async.DNS
import Std.Async.TCP
import Std.Internal.UV.System
import Std.Time.DateTime.Timestamp

/-!
# Host and network

What a program takes from the machine it runs on: variables, the present time,
fresh identifiers and files. Faults of files are told apart as far as their
messages differ. Messages are exchanged over connections that serve one request
each; whatever goes wrong with a connection counts as no message.
-/
namespace Reindexing.Host

def environment : IO (List (String × String)) := do
  pure (← Std.Internal.UV.System.osEnviron).toList

def now : IO Instant := do
  let nanos := (← Std.Time.Timestamp.now).toNanosecondsSinceUnixEpoch.val
  pure ⟨nanos / 1000000000, (nanos % 1000000000).toNat⟩

/-- A number of 128 random bits, with the marks of a random identifier. -/
def freshNumber : IO Nat := do
  let bytes ← IO.getRandomBytes 16
  let n := bytes.toList.foldl (fun n b => 256 * n + b.toNat) 0
  let low := n % 0x4000000000000000 + 0x8000000000000000
  let high := n / 0x10000000000000000
  pure ((high / 0x10000 * 0x10000 + 0x4000 + high % 0x1000) * 0x10000000000000000 + low)

def faultOf : IO.Error → DiskError
  | .noFileOrDirectory .. | .noSuchThing .. => .notFound
  | .alreadyExists .. => .exists
  | .permissionDenied .. => .denied
  | .resourceExhausted .. => .noSpace
  | .inappropriateType _ 20 _ => .notDirectory
  | .inappropriateType .. => .isDirectory
  | .invalidArgument _ 36 _ => .nameTooLong
  | error => .other (toString error)

/-- Does something to a file, and tells how that goes. -/
def attempt (action : IO α) : IO (Except DiskError α) := do
  match ← action.toBaseIO with
  | .ok a => pure (.ok a)
  | .error error => pure (.error (faultOf error))

def readFile (name : String) : IO (Except DiskError String) := do
  match ← attempt (IO.FS.readBinFile name) with
  | .ok bytes => pure ((String.fromUTF8? bytes).elim (.error .notText) .ok)
  | .error fault => pure (.error fault)

def appendFile (name text : String) : IO Unit := do
  let handle ← IO.FS.Handle.mk name .append
  handle.putStr text
  handle.flush

end Reindexing.Host

namespace Reindexing.Network

open Std.Async

def socketAddress (address : Std.Net.IPAddr) (port : UInt16) : Std.Net.SocketAddress :=
  match address with
  | .v4 a => .v4 ⟨a, port⟩
  | .v6 a => .v6 ⟨a, port⟩

/-- The first address of a host. -/
def resolve (host : String) : Async Std.Net.IPAddr := do
  let bare := String.ofList (host.toList.filter fun c => c != '[' && c != ']')
  match (← DNS.getAddrInfo bare "")[0]? with
  | some address => pure address
  | none => throw (IO.userError "no address")

/-- Receives bytes until they are enough or there are no more. -/
partial def receive (socket : TCP.Socket.Client) (isEnough : List UInt8 → Bool) (got : List UInt8) :
    Async (List UInt8) := do
  if isEnough got then pure got
  else
    match ← socket.recv? 65536 with
    | some bytes => receive socket isEnough (got ++ bytes.toList)
    | none => pure got

/-- Sends a text to a host and receives the response that comes back. -/
def exchange (host : String) (port : UInt16) (text : String) : Async (Option Http.Arrival) := do
  let address ← resolve host
  let socket ← TCP.Socket.Client.mk
  socket.connect (socketAddress address port)
  socket.send text.toUTF8
  pure (Http.Arrival.ofBytes? (← receive socket (fun _ => false) []))

/-- Asks a server, and gives what it replies; only plain connections are made. -/
def ask (call : Cli.Call) : IO (Option Http.Arrival) := do
  let peer := call.peer
  try
    if call.url.scheme = "http" && peer.scheme = "http" then
      (exchange peer.host ((peer.port.getD 80).toUInt16) call.toText).block
    else pure none
  catch _ => pure none

/-- Listens at an address. -/
def listen (host : String) (port : UInt16) : IO TCP.Socket.Server := do
  let address ← (resolve host).block
  let server ← TCP.Socket.Server.mk
  server.bind (socketAddress address port)
  server.listen 128
  pure server

/-- Takes one connection and answers the request on it. -/
def serveOne (server : TCP.Socket.Server) (respond : Http.Request → IO Http.Response) : Async Unit := do
  let socket ← server.accept
  let bytes ← receive socket (fun got => (Http.Message.ofBytes? got).isSome) []
  let response ← match (Http.Message.ofBytes? bytes).bind Http.Message.request? with
    | some request => respond request
    | none => pure (Http.Response.bare 400)
  socket.send response.toMessageText.toUTF8
  socket.shutdown

end Reindexing.Network
