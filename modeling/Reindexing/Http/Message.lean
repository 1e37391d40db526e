import Reindexing.Decimal.Digits
import Reindexing.Json.Printer

/-!
# HTTP messages

Requests and responses as data. The names of header fields are in lowercase. The
content of a response is kept as what it stands for, so that a client need not
read it back. The outcome is a number; the registered numbers have a phrase
beside them, and those from 200 to 299 stand for success.
-/
namespace Reindexing.Http

/-! ### Status codes -/

/-- The phrases of the registered numbers. -/
def statusPhrases : List (Nat × String) :=
  [(100, "Continue"), (101, "Switching Protocols"), (102, "Processing"), (103, "Early Hints"), (200, "OK"),
    (201, "Created"), (202, "Accepted"), (203, "Non Authoritative Information"), (204, "No Content"),
    (205, "Reset Content"), (206, "Partial Content"), (207, "Multi-Status"), (208, "Already Reported"),
    (226, "IM Used"), (300, "Multiple Choices"), (301, "Moved Permanently"), (302, "Found"), (303, "See Other"),
    (304, "Not Modified"), (305, "Use Proxy"), (307, "Temporary Redirect"), (308, "Permanent Redirect"),
    (400, "Bad Request"), (401, "Unauthorized"), (402, "Payment Required"), (403, "Forbidden"), (404, "Not Found"),
    (405, "Method Not Allowed"), (406, "Not Acceptable"), (407, "Proxy Authentication Required"),
    (408, "Request Timeout"), (409, "Conflict"), (410, "Gone"), (411, "Length Required"),
    (412, "Precondition Failed"), (413, "Payload Too Large"), (414, "URI Too Long"),
    (415, "Unsupported Media Type"), (416, "Range Not Satisfiable"), (417, "Expectation Failed"),
    (418, "I'm a teapot"), (421, "Misdirected Request"), (422, "Unprocessable Entity"), (423, "Locked"),
    (424, "Failed Dependency"), (426, "Upgrade Required"), (428, "Precondition Required"),
    (429, "Too Many Requests"), (431, "Request Header Fields Too Large"), (451, "Unavailable For Legal Reasons"),
    (500, "Internal Server Error"), (501, "Not Implemented"), (502, "Bad Gateway"), (503, "Service Unavailable"),
    (504, "Gateway Timeout"), (505, "HTTP Version Not Supported"), (506, "Variant Also Negotiates"),
    (507, "Insufficient Storage"), (508, "Loop Detected"), (510, "Not Extended"),
    (511, "Network Authentication Required")]

/-- A number with its phrase. -/
def statusText (status : Nat) : String :=
  Decimal.ofNat status ++ " " ++ ((statusPhrases.lookup status).getD "<unknown status code>")

def isSuccess (status : Nat) : Bool := decide (200 ≤ status) && decide (status < 300)

/-! ### Messages -/

structure Request where
  method : String
  /-- The path as it was sent. -/
  path : String
  query : Option String
  headers : List (String × String)
  body : String
  deriving DecidableEq, Repr

/-- A header value that can be read as text has ASCII characters only. -/
def isReadable (value : String) : Bool := value.toList.all fun c => c.toNat < 0x80

/-- The first value of a header field, if it can be read. -/
def Request.header? (r : Request) (name : String) : Option String :=
  ((r.headers.find? (·.1 = name)).map (·.2)).filter isReadable

inductive Content where
  | empty
  | json (value : Json)
  | text (value : String)
  /-- Content that was compressed. -/
  | compressed (plain : String)
  deriving DecidableEq, Repr

/-- The text of content. -/
def Content.toText : Content → String
  | .empty => ""
  | .json j => j.compact
  | .text s | .compressed s => s

structure Response where
  status : Nat
  headers : List (String × String)
  content : Content
  deriving DecidableEq, Repr

namespace Response

/-- A response without content. -/
def bare (status : Nat) : Response := ⟨status, [], .empty⟩

def json (status : Nat) (value : Json) : Response :=
  ⟨status, [("content-type", "application/json")], .json value⟩

def text (status : Nat) (type value : String) : Response := ⟨status, [("content-type", type)], .text value⟩

def header? (r : Response) (name : String) : Option String :=
  (r.headers.find? (·.1 = name)).map (·.2)

/-- Sets a header field in place of one of the same name. -/
def withHeader (r : Response) (name value : String) : Response :=
  { r with headers := r.headers.filter (·.1 ≠ name) ++ [(name, value)] }

def withoutContent (r : Response) : Response := { r with content := .empty }

end Response

end Reindexing.Http
