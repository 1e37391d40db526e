import Reindexing.Http.Host

/-!
# Addresses

An address has a scheme, a host, perhaps a user in front of it and a port behind it, a
path, and perhaps a query and a fragment. What cannot stand in a part is
percent-encoded, and dots in the path are followed when an address is read. An address
may also be given by where it differs from another one. Names and values of a query
are encoded as a form does.

Requests may go through a proxy instead of straight to their server. The environment
names one for each scheme, and the hosts that are asked directly: by name with all
names below it, or by number with all numbers that begin alike.
-/
namespace Reindexing.Http

structure Url where
  scheme : String
  /-- The user, with the sign behind it. -/
  user : String
  host : String
  /-- A port that the scheme does not have anyway. -/
  port : Option Nat
  path : String
  query : Option String
  fragment : Option String
  deriving DecidableEq, Repr

/-- One byte, percent-encoded. -/
def percentEncodeByte (b : UInt8) : List Char := '%' :: (Json.hexDigits 2 b.toNat).map Char.toUpper

/-- Encodes the characters that are not kept. -/
def percentEncode (keeps : Char → Bool) (cs : List Char) : List Char :=
  cs.flatMap fun c => if keeps c then [c] else (String.utf8EncodeChar c).flatMap percentEncodeByte

/-- One name or value of a form. -/
def formEncode (s : String) : String :=
  String.ofList (s.toList.flatMap fun c =>
    if c = ' ' then ['+']
    else if c.isAlphanum || "*-._".toList.contains c then [c]
    else (String.utf8EncodeChar c).flatMap percentEncodeByte)

/-- The query for some names and values. -/
def formQuery (pairs : List (String × String)) : String :=
  Text.join "&" (pairs.map fun (name, value) => formEncode name ++ "=" ++ formEncode value)

namespace Url

def isPlain (c : Char) : Bool := 0x20 ≤ c.toNat && c.toNat ≤ 0x7e

def isVisible (c : Char) : Bool := 0x21 ≤ c.toNat && c.toNat ≤ 0x7e

def keptInFragment (c : Char) : Bool := isVisible c && !"\"<>\x60".toList.contains c

def keptInPath (c : Char) : Bool := keptInFragment c && !"#?\x7b\x7d".toList.contains c

def keptInUser (c : Char) : Bool := keptInPath c && !"/:;=@[\\]^|".toList.contains c

def keptInQuery (c : Char) : Bool := isVisible c && !"\"#<>'".toList.contains c

def encoded (keeps : Char → Bool) (cs : List Char) : String := String.ofList (percentEncode keeps cs)

/-- What the parts of an address are like. -/
inductive Kind where
  /-- There is always a host, and slashes may lean either way. -/
  | server
  /-- A file, perhaps of some host. -/
  | file
  | other
  deriving DecidableEq, Repr

/-- The schemes of servers, each with its port. -/
def serverSchemes : List (String × Nat) := [("http", 80), ("https", 443), ("ws", 80), ("wss", 443), ("ftp", 21)]

def Kind.ofScheme (scheme : String) : Kind :=
  if (serverSchemes.lookup scheme).isSome then .server else if scheme = "file" then .file else .other

def isSlash (c : Char) : Bool := c == '/' || c == '\\'

/-- Whether a character separates parts of a path. -/
def Kind.isSeparator (kind : Kind) (c : Char) : Bool := if kind = .other then c == '/' else isSlash c

/-- Whether a character ends the host with what stands around it. -/
def Kind.endsAuthority (kind : Kind) (c : Char) : Bool := kind.isSeparator c || c == '?' || c == '#'

/-- A scheme and what stands behind its colon. -/
def splitScheme? (cs : List Char) : Option (String × List Char) :=
  let isSchemeChar (c : Char) : Bool := c.isAlphanum || "+-.".toList.contains c
  ((Text.splitFirst ':' cs).filter fun (scheme, _) => scheme.head?.any Char.isAlpha && scheme.all isSchemeChar).map
    fun (scheme, rest) => (String.ofList (scheme.map Char.toLower), rest)

/-- The characters of an address that count: no line ends and tabs, and no blanks around it. -/
def significant (s : String) : List Char :=
  let isOutside (c : Char) : Bool := c.toNat ≤ 0x20
  (Text.dropEnd isOutside (s.toList.dropWhile isOutside)).filter fun c => c != '\n' && c != '\r' && c != '\t'

/-- A user with perhaps a password, and the sign behind them. -/
def readUser (cs : List Char) : String :=
  let name := cs.takeWhile (· != ':')
  let password := (cs.dropWhile (· != ':')).drop 1
  if name.isEmpty && password.isEmpty then ""
  else encoded keptInUser name ++ (if password.isEmpty then "" else ":" ++ encoded keptInUser password) ++ "@"

/-- The port after a host; an empty one is none, and so is that of the scheme. -/
def readPort? (scheme : String) (cs : List Char) : Option (Option Nat) :=
  if cs.isEmpty then some none
  else
    (Decimal.readNat? cs).bind fun n =>
      if n < 65536 then some (if serverSchemes.lookup scheme = some n then none else some n) else none

/-- The host of an address whose scheme is not that of a server. -/
def readOtherHost? (cs : List Char) : Option String :=
  if cs.head? == some '[' then Host.inBrackets? cs
  else if cs.any fun c => c.toNat == 0 || " #/:<>?@[\\]^|".toList.contains c then none
  else some (encoded isPlain cs)

/-- Splits a host from the port behind it; colons in brackets belong to the host. -/
def splitPort : Bool → List Char → List Char × Option (List Char)
  | _, [] => ([], none)
  | inBrackets, c :: rest =>
    if c == ':' && !inBrackets then ([], some rest)
    else
      let (host, port) := splitPort (c == '[' || (inBrackets && c != ']')) rest
      (c :: host, port)

/-- A host with perhaps a port, behind a user that may be there. -/
def readAuthority? (kind : Kind) (scheme : String) (cs : List Char) : Option (String × String × Option Nat) := do
  let afterUser := (cs.reverse.takeWhile (· != '@')).reverse
  let hasUser := afterUser.length < cs.length
  let user := if hasUser then readUser (cs.take (cs.length - afterUser.length - 1)) else ""
  let (hostChars, portChars) := splitPort false afterUser
  let host ← if kind = .server then Host.ofText? hostChars else readOtherHost? hostChars
  let port ← readPort? scheme (portChars.getD [])
  if host = "" && (hasUser || portChars.isSome) then none else some (user, host, port)

def isOneDot (segment : List Char) : Bool := [".", "%2e"].contains (String.ofList (segment.map Char.toLower))

def isTwoDots (segment : List Char) : Bool :=
  ["..", ".%2e", "%2e.", "%2e%2e"].contains (String.ofList (segment.map Char.toLower))

/-- Whether a segment is a letter with a colon, which names a drive and is never left. -/
def isDrive : List Char → Bool
  | [letter, sign] => letter.isAlpha && (sign == ':' || sign == '|')
  | _ => false

/-- Leaves the last segment; `done` is in reverse. -/
def leave (done : List (List Char)) : List (List Char) := if done.head?.any isDrive then done else done.drop 1

/-- The segments of a path after its dots have been followed; `done` is in reverse. -/
def followDots (done : List (List Char)) : List (List Char) → List (List Char)
  | [] => done.reverse
  | [last] =>
    if isTwoDots last then ([] :: leave done).reverse
    else if isOneDot last then ([] :: done).reverse
    else (last :: done).reverse
  | segment :: rest =>
    if isTwoDots segment then followDots (leave done) rest
    else if isOneDot segment then followDots done rest
    else followDots (segment :: done) rest

/-- The path of an address, which starts with a slash. -/
def readPath (kind : Kind) (cs : List Char) : String :=
  let cs := if cs.head?.any kind.isSeparator then cs.drop 1 else cs
  let segments := followDots [] (Text.splitAt kind.isSeparator cs)
  "/" ++ Text.join "/" (segments.map (encoded keptInPath))

/-- The path, the query and the fragment of an address. -/
def splitTail (cs : List Char) : List Char × Option String × Option String :=
  let beforeFragment := cs.takeWhile (· != '#')
  (beforeFragment.takeWhile (· != '?'), ((beforeFragment.dropWhile (· != '?')).tail?).map (encoded keptInQuery),
    ((cs.dropWhile (· != '#')).tail?).map (encoded keptInFragment))

/-- Reads an address from where its host begins, or the user in front of it. -/
def ofAuthority? (kind : Kind) (scheme : String) (cs : List Char) : Option Url :=
  let authority := cs.takeWhile fun c => !kind.endsAuthority c
  let (path, query, fragment) := splitTail (cs.drop authority.length)
  (readAuthority? kind scheme authority).map fun (user, host, port) =>
    ⟨scheme, user, host, port, readPath kind path, query, fragment⟩

/-- The port as an address shows it. -/
def portText (u : Url) : String := (u.port.map fun port => ":" ++ Decimal.ofNat port).getD ""

/-- What is asked of the server: the path and the query. -/
def target (u : Url) : String :=
  match u.query with
  | some query => u.path ++ "?" ++ query
  | none => u.path

def toText (u : Url) : String :=
  u.scheme ++ "://" ++ u.user ++ u.host ++ u.portText ++ u.target ++ (u.fragment.map ("#" ++ ·)).getD ""

/-- Whether requests can be sent to an address. -/
def isWeb (u : Url) : Bool := u.scheme = "http" || u.scheme = "https"

/-- Reads the address of a server that requests can be sent to; a user is left out. -/
def ofText? (s : String) : Option Url :=
  match splitScheme? (significant s) with
  | none => none
  | some (scheme, rest) =>
    if Kind.ofScheme scheme = .server then
      ((ofAuthority? .server scheme (rest.dropWhile isSlash)).map fun u => { u with user := "" }).filter fun u =>
        u.isWeb && (Target.ofText? u.toText).isSome
    else none

/-- Where a reference leads. -/
inductive Destination where
  | address (u : Url)
  /-- No requests can be sent there. -/
  | elsewhere
  deriving DecidableEq, Repr

/-- Reads the address of a file, if a host is named; what begins like a path on a drive has none. -/
def readFile? (cs : List Char) : Option Destination :=
  match cs with
  | a :: b :: rest =>
    let isEnd (c : Char) : Bool := Kind.file.endsAuthority c
    let host := rest.takeWhile (!isEnd ·)
    let (path, _) := splitTail (rest.drop host.length)
    let isOnDrive := ((Text.splitAt isSlash path)[1]?).any isDrive
    if isSlash a && isSlash b && !isDrive host && !isOnDrive then
      ((Host.ofText? host).filter fun name => name ≠ "localhost" && Target.isAuthority name.toList).map
        fun _ => .elsewhere
    else none
  | _ => none

/-- Reads an address of another kind; without a host it has to look like one. -/
def readOther? (scheme : String) (cs : List Char) : Option Destination :=
  match cs with
  | '/' :: '/' :: rest =>
    ((ofAuthority? .other scheme rest).filter fun u => (Target.ofText? u.toText).isSome).map fun _ => .elsewhere
  | _ => if Target.isAuthority (scheme.toList ++ ':' :: percentEncode isPlain cs) then some .elsewhere else none

/-- Reads a reference that has no scheme. It leaves out the host, the beginning of the path, or all of the path. -/
def joinRelative? (u : Url) (cs : List Char) : Option Url :=
  let (path, query, fragment) := splitTail cs
  match path with
  | [] => some { u with query := if query.isSome then query else u.query, fragment }
  | first :: rest =>
    if isSlash first && rest.head?.any isSlash then
      let rest := if first == '/' && rest.head? == some '/' then cs.drop 2 else cs.dropWhile isSlash
      ofAuthority? .server u.scheme rest
    else
      let folder := if isSlash first then [] else (u.path.toList.reverse.dropWhile (· != '/')).reverse
      some { u with path := readPath .server (folder ++ path), query, fragment }

/-- The address that a reference stands for where `u` is the current address, if it is well-formed. -/
def join? (u : Url) (reference : String) : Option Destination :=
  let cs := significant reference
  let server (found : Option Url) : Option Destination :=
    (found.filter fun u => (Target.ofText? u.toText).isSome).map fun u => if u.isWeb then .address u else .elsewhere
  match splitScheme? cs with
  | none => server (joinRelative? u cs)
  | some (scheme, rest) =>
    match Kind.ofScheme scheme with
    | .server =>
      if scheme = u.scheme && (rest.takeWhile isSlash).length < 2 then server (joinRelative? u rest)
      else server (ofAuthority? .server scheme (rest.dropWhile isSlash))
    | .file => readFile? rest
    | .other => readOther? scheme rest

/-- Adds names and values to the query; without any there is no query to add. -/
def withPairs (u : Url) (pairs : List (String × String)) : Url :=
  if pairs.isEmpty then u
  else
    match u.query with
    | some query => { u with query := some (if query = "" then formQuery pairs else query ++ "&" ++ formQuery pairs) }
    | none => { u with query := some (formQuery pairs) }

end Url

/-! ### Proxies -/

structure Proxies where
  forHttp : Option Url
  forHttps : Option Url
  /-- Hosts that are asked directly. -/
  direct : List String
  deriving DecidableEq, Repr

namespace Proxies

/-- The address of a proxy, in which the scheme may be missing. -/
def readAddress? (s : String) : Option Url :=
  let hasScheme : Bool := match Url.splitScheme? (Url.significant s) with
    | some (scheme, rest) => Url.Kind.ofScheme scheme == .server || "//".toList.isPrefixOf rest
    | none => false
  if Text.isBlankText s then none else Url.ofText? (if hasScheme then s else "http://" ++ s)

/-- The proxies that an environment names. A variable for one scheme counts more than one for all. -/
def ofEnvironment (env : String → Option String) : Proxies :=
  let first (names : List String) : Option Url := names.findSome? fun name => (env name).bind readAddress?
  let isGateway := (env "REQUEST_METHOD").isSome
  let direct := (env "NO_PROXY" <|> env "no_proxy").getD ""
  ⟨first ((if isGateway then [] else ["HTTP_PROXY", "http_proxy"]) ++ ["ALL_PROXY", "all_proxy"]),
    first ["HTTPS_PROXY", "https_proxy", "ALL_PROXY", "all_proxy"], Text.commaList direct⟩

/-- Whether a name is another one or stands below it; a dot in front of that does not count. -/
def isBelow (name above : String) : Bool :=
  let bare := if above.startsWith "." then (above.drop 1).toString else above
  above == "*" || name == bare || name.endsWith ("." ++ bare)

/-- Whether a number of four bytes is another one, or begins like it for as many bits as that tells. -/
def isWithin (number network : String) : Bool :=
  let value? (s : String) : Option Nat := if Host.isDotted s.toList then Host.readNumber? s.toList else none
  match network.splitOn "/" with
  | [address, bits] =>
    match value? number, value? address, Decimal.readNat? bits.toList with
    | some n, some m, some bits => bits ≤ 32 && n / Nat.pow 2 (32 - bits) == m / Nat.pow 2 (32 - bits)
    | _, _, _ => false
  | _ => number == network

/-- Whether a host is asked directly. -/
def isDirect (p : Proxies) (host : String) : Bool :=
  if host.startsWith "[" then p.direct.any fun item => "[" ++ item.toLower ++ "]" == host
  else if Host.isDotted host.toList then p.direct.any (isWithin host)
  else p.direct.any (isBelow host)

/-- The proxy for an address. -/
def for? (p : Proxies) (u : Url) : Option Url :=
  if p.isDirect u.host then none
  else if u.scheme = "https" then p.forHttps else p.forHttp

end Proxies

end Reindexing.Http
