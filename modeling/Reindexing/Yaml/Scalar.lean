import Reindexing.Decimal.Nearest
import Reindexing.Json.Document
import Reindexing.Word
import Reindexing.Yaml.Token

/-!
# YAML scalars

What a word without quotes stands for: nothing, a truth value, a number, or else
a text. A standard tag asks for one of these, and a word that is none of that kind
is invalid; any other tag makes it a text. Fractions keep the text they are
written in.
-/
namespace Reindexing.Yaml

inductive Scalar where
  | null
  | flag (value : Bool)
  | int (value : Int)
  | real (text : String)
  | text (text : String)
  | invalid
  deriving DecidableEq, Repr, Inhabited

/-- What the tags that the notation itself defines start with. -/
def Tag.standard : String := "tag:yaml.org,2002:"

/-- Digits in another base than ten behind an optional sign. -/
def readBased? (base : Nat) (cs : List Char) : Option Int :=
  let digits? (cs : List Char) : Option Int :=
    match cs.mapM fun c => (Json.hexValue? c).filter (· < base) with
    | some (d :: ds) => some ((d :: ds).foldl (fun n d => base * n + d) 0 : Nat)
    | _ => none
  match cs with
  | '-' :: rest => (digits? rest).map (- ·)
  | '+' :: rest => digits? rest
  | _ => digits? cs

/-- A whole number of 64 bits; one more sign may stand in front of it, if that is a plus. -/
def readInt? (cs : List Char) : Option Int :=
  let prefixed? := match cs with
    | '0' :: 'x' :: rest => readBased? 16 rest
    | '0' :: 'o' :: rest => readBased? 8 rest
    | '+' :: rest => Decimal.readInt? rest
    | _ => none
  (prefixed?.orElse fun _ => Decimal.readInt? cs).filter Word.isInt64

/-- Whether a word is a fraction. Infinities and the like have names of their own. -/
def isReal (s : String) : Bool :=
  [".inf", ".Inf", ".INF", "+.inf", "+.Inf", "+.INF", "-.inf", "-.Inf", "-.INF", ".nan", "NaN", ".NAN"].contains s ||
    (s.toList.any Char.isDigit && (Decimal.readFloat? s.toList).isSome)

namespace Scalar

/-- The value of a word without a tag. -/
def ofPlain (s : String) : Scalar :=
  match s with
  | "" | "~" | "null" => .null
  | "true" => .flag true
  | "false" => .flag false
  | _ =>
    match readInt? s.toList with
    | some i => .int i
    | none => if isReal s then .real s else .text s

/-- The value of a word with a standard tag. -/
def ofStandard (name s : String) : Scalar :=
  match name with
  | "bool" => if s = "true" then .flag true else if s = "false" then .flag false else .invalid
  | "int" => match (Decimal.readInt? s.toList).filter Word.isInt64 with
    | some i => .int i
    | none => .invalid
  | "float" => if isReal s then .real s else .invalid
  | "null" => if s = "~" || s = "null" then .null else .invalid
  | _ => .text s

/-- The value of a word without quotes. -/
def ofWord (tag : Option Tag) (s : String) : Scalar :=
  match tag with
  | none => ofPlain s
  | some tag => if tag.handle = Tag.standard then ofStandard tag.suffix s else .text s

end Scalar

end Reindexing.Yaml
