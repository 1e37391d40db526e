import Reindexing.Disk
import Reindexing.Http.Arrival
import Reindexing.Http.Url

/-!
# Sessions

What a program does from its start to its end, described step by step: it prints,
asks a server, and reads and changes files. What it does next may depend on the
answers. A session only describes; it is played against a given world, or carried
out by the program that runs it.
-/
namespace Reindexing.Cli

inductive Channel where
  | out
  | err
  deriving DecidableEq, Repr

/-- A request to a server. -/
structure Call where
  method : String
  url : Http.Url
  /-- The proxy that it goes through, if any. -/
  proxy : Option Http.Url
  contentType : Option String
  body : String
  deriving DecidableEq, Repr

/-- Whom the request is sent to. -/
def Call.peer (c : Call) : Http.Url := c.proxy.getD c.url

/-- What is asked for: a proxy has to be told the whole address. -/
def Call.target (c : Call) : String := if c.proxy.isSome then { c.url with fragment := none }.toText else c.url.target

/-- The request as it travels. -/
def Call.toText (c : Call) : String :=
  Http.Message.toText (c.method ++ " " ++ c.target ++ " HTTP/1.1")
    ([("host", c.url.host ++ c.url.portText), ("accept", "*/*")] ++
      c.contentType.toList.map fun type => ("content-type", type)) c.body

/-- A description of what is done until there is a value. -/
inductive Session (α : Type) where
  | done (value : α)
  | print (channel : Channel) (text : String) (next : Session α)
  /-- A server that cannot be reached, or whose reply makes no sense, gives none. -/
  | ask (call : Call) (next : Option Http.Arrival → Session α)
  | read (file : String) (next : Except DiskError String → Session α)
  | write (file text : String) (next : Except DiskError Unit → Session α)
  | makeDirectory (path : String) (next : Except DiskError Unit → Session α)
  | remove (file : String) (next : Except DiskError Unit → Session α)

namespace Session

/-- One session after another. -/
protected def bind : Session α → (α → Session β) → Session β
  | .done a, f => f a
  | .print channel text next, f => .print channel text (next.bind f)
  | .ask call next, f => .ask call fun r => (next r).bind f
  | .read file next, f => .read file fun r => (next r).bind f
  | .write file text next, f => .write file text fun r => (next r).bind f
  | .makeDirectory path next, f => .makeDirectory path fun r => (next r).bind f
  | .remove file next, f => .remove file fun r => (next r).bind f

instance : Monad Session where
  pure := .done
  bind := Session.bind

end Session

/-- What a session is played against. -/
structure World where
  disk : Disk
  /-- Where names of files without a leading slash begin. -/
  directory : Path
  /-- The only server that can be reached. -/
  host : String
  port : Option Nat
  /-- What the server will send, in order. -/
  replies : List String
  deriving Repr

/-- What can be seen of a session. -/
structure Record where
  calls : List Call
  printed : List (Channel × String)
  deriving DecidableEq, Repr

namespace World

/-- The names of a path. -/
def pathOf (w : World) (file : String) : Path :=
  if file.startsWith "/" then Disk.pathOf file else w.directory ++ Disk.pathOf file

/-- The text in a file. -/
def textIn (w : World) (file : String) : Except DiskError String :=
  w.disk.locate false w.directory file >>= w.disk.read

/-- The channel that a file stands for. -/
def channelAt? (w : World) (file : String) : Option Channel :=
  match w.disk.locate true w.directory file with
  | .ok ["dev", "stdout"] => some .out
  | .ok ["dev", "stderr"] => some .err
  | _ => none

/-- What a server sends that has no reply left. -/
def failure : String := Http.Message.ofStatus 500 [] ""

/-- Asks the server, and gives what it sends. -/
def reply? (w : World) (call : Call) : World × Option String :=
  let peer := call.peer
  if call.url.scheme = "http" && peer.scheme = "http" && peer.host = w.host && peer.port = w.port then
    ({ w with replies := w.replies.drop 1 }, some (w.replies.headD failure))
  else (w, none)

/-- Changes the disk unless that fails. -/
def change (w : World) (f : Disk → Except DiskError Disk) : World × Except DiskError Unit :=
  match f w.disk with
  | .ok disk => ({ w with disk }, .ok ())
  | .error fault => (w, .error fault)

end World

def Record.empty : Record := ⟨[], []⟩

def Record.print (seen : Record) (channel : Channel) (text : String) : Record :=
  { seen with printed := seen.printed ++ [(channel, text)] }

/-- Plays a session. -/
def Session.play (w : World) (seen : Record) : Session α → World × Record × α
  | .done a => (w, seen, a)
  | .print channel text next => next.play w (seen.print channel text)
  | .ask call next =>
    let (w, sent) := w.reply? call
    let reply := sent.bind fun text => Http.Arrival.ofBytes? (Text.utf8 text)
    (next reply).play w (if sent.isSome then { seen with calls := seen.calls ++ [call] } else seen)
  | .read file next => (next (w.textIn file)).play w seen
  | .write file text next =>
    match w.channelAt? file with
    | some channel => (next (.ok ())).play w (seen.print channel text)
    | none =>
      let (w, result) := w.change fun d => do d.write (← d.locate true w.directory file) (some text)
      (next result).play w seen
  | .makeDirectory path next =>
    let (w, result) := w.change (·.makeDirectories [] (w.pathOf path))
    (next result).play w seen
  | .remove file next =>
    let (w, result) := w.change fun d => .ok (d.unlink (w.pathOf file))
    (next result).play w seen

/-- Everything that was printed on a channel. -/
def Record.text (r : Record) (channel : Channel) : String :=
  String.join ((r.printed.filter (·.1 = channel)).map (·.2))

end Reindexing.Cli
