import Reindexing.Decimal.Digits

/-!
# Reading decimal fractions

The double that is nearest to a decimal numeral. A numeral has digits on at least
one side of its point, and perhaps an exponent; the names of infinity and of what
is no number are read in any case.
-/
namespace Reindexing.Decimal

/-- The double nearest to digits times a power of ten. Doubles end below `10 ^ 400` and above `10 ^ -400`. -/
def nearest (digits : List Char) (exponent : Int) : Float :=
  let n := valueOf digits
  let magnitude : Int := (digits.dropWhile (· == '0')).length + exponent
  if n = 0 || magnitude < -400 then 0.0
  else if 400 < magnitude then 1.0 / 0.0
  else Float.ofScientific n (exponent < 0) exponent.natAbs

/-- An exponent: a sign perhaps, and digits. -/
def readExponent? (cs : List Char) : Option Int :=
  match cs with
  | '+' :: rest => (readNat? rest).map Int.ofNat
  | '-' :: rest => (readNat? rest).map fun n => -Int.ofNat n
  | _ => (readNat? cs).map Int.ofNat

/-- The value of a numeral without a sign. -/
def readUnsigned? (cs : List Char) : Option Float :=
  let (whole, rest) := spanDigits cs
  let (places, rest) := match rest with
    | '.' :: rest => spanDigits rest
    | _ => ([], rest)
  let exponent? := match rest with
    | [] => some 0
    | c :: rest => if c = 'e' || c = 'E' then readExponent? rest else none
  if whole.isEmpty && places.isEmpty then none
  else exponent?.map fun e => nearest (whole ++ places) (e - places.length)

def readMagnitude? (cs : List Char) : Option Float :=
  match String.ofList (cs.map Char.toLower) with
  | "inf" | "infinity" => some (1.0 / 0.0)
  | "nan" => some (0.0 / 0.0)
  | _ => readUnsigned? cs

/-- The value of a numeral. -/
def readFloat? (cs : List Char) : Option Float :=
  match cs with
  | '-' :: rest => (readMagnitude? rest).map fun x => -x
  | '+' :: rest => readMagnitude? rest
  | _ => readMagnitude? cs

end Reindexing.Decimal
