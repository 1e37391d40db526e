import Reindexing.Decimal.Digits

/-!
# Writing floating point numbers

A format says which exponents are written positionally, whether an integral
number keeps `.0`, and how an exponent and the special values look. The digits
are always the shortest that read back.
-/
namespace Reindexing.Decimal

/-! ### Shortest decimals

A finite double is `m * 2 ^ q`. Every real between the midpoints to its two
neighbours reads back as that double, the midpoints included when `m` is even.
The shortest decimal is the coarsest grid `10 ^ k` with a point in that
interval; only the two grid points around the double itself can be the first.
Of two points the nearer one is taken, and the even one when they tie. -/

/-- A double taken apart; the value is `mantissa * 2 ^ exponent`. -/
structure Binary where
  negative : Bool
  mantissa : Nat
  exponent : Int
  /-- The gap below is half the gap above. -/
  lowerIsCloser : Bool
  deriving DecidableEq, Repr

inductive Class where
  | nan
  | infinite (negative : Bool)
  | finite (value : Binary)
  deriving DecidableEq, Repr

def classify (bits : UInt64) : Class :=
  let negative := bits >>> 63 == 1
  let biased := ((bits >>> 52) &&& 0x7ff).toNat
  let fraction := (bits &&& 0xfffffffffffff).toNat
  if biased = 0x7ff then
    if fraction = 0 then .infinite negative else .nan
  else if biased = 0 then .finite ⟨negative, fraction, -1074, false⟩
  else .finite ⟨negative, fraction + 0x10000000000000, (biased : Int) - 1075, fraction == 0 && decide (1 < biased)⟩

/-- A positive rational as numerator and denominator. -/
structure Ratio where
  num : Nat
  den : Nat
  deriving DecidableEq, Repr

/-- `n * 2 ^ e`. -/
def Ratio.scaleTwo (n : Nat) (e : Int) : Ratio :=
  match e with
  | .ofNat k => ⟨n * Nat.pow 2 k, 1⟩
  | .negSucc k => ⟨n, Nat.pow 2 (k + 1)⟩

/-- The ratio divided by `10 ^ k`. -/
def Ratio.shift (r : Ratio) (k : Int) : Ratio :=
  match k with
  | .ofNat k => ⟨r.num, r.den * Nat.pow 10 k⟩
  | .negSucc k => ⟨r.num * Nat.pow 10 (k + 1), r.den⟩

/-- Comparison of `c * 10 ^ k`, already shifted, with a ratio. -/
def Ratio.atMost (r : Ratio) (c : Nat) (strict : Bool) : Bool :=
  if strict then decide (r.num < c * r.den) else decide (r.num ≤ c * r.den)

def Ratio.atLeast (r : Ratio) (c : Nat) (strict : Bool) : Bool :=
  if strict then decide (c * r.den < r.num) else decide (c * r.den ≤ r.num)

/-- The best grid point of `10 ^ k` that reads back as `b`, if there is one. -/
def gridPoint (b : Binary) (k : Int) : Option Nat :=
  let value := (Ratio.scaleTwo (4 * b.mantissa) (b.exponent - 2)).shift k
  let low := (Ratio.scaleTwo (4 * b.mantissa - if b.lowerIsCloser then 1 else 2) (b.exponent - 2)).shift k
  let high := (Ratio.scaleTwo (4 * b.mantissa + 2) (b.exponent - 2)).shift k
  let strict := b.mantissa % 2 == 1
  let fits (c : Nat) : Bool := decide (0 < c) && low.atMost c strict && high.atLeast c strict
  let below := value.num / value.den
  match fits below, fits (below + 1) with
  | false, false => none
  | true, false => some below
  | false, true => some (below + 1)
  | true, true =>
    let twice := 2 * (value.num - below * value.den)
    if twice < value.den then some below
    else if value.den < twice then some (below + 1)
    else if below % 2 = 0 then some below else some (below + 1)

/-- The decimal exponent of the leading digit of a positive ratio, for ratios above `10 ^ -400`. -/
def leadingExponent (r : Ratio) : Int :=
  ((Nat.toDigits 10 (r.num * Nat.pow 10 400 / r.den)).length : Int) - 401

/-- The first grid with a point, from `10 ^ k` downwards. -/
def searchGrid (b : Binary) (k : Int) : Nat → Nat × Int
  | 0 => (b.mantissa, 0)
  | fuel + 1 =>
    match gridPoint b k with
    | some c => (c, k)
    | none => searchGrid b (k - 1) fuel

/-- Digits and exponent of the shortest decimal of a positive double: the value is
`digits * 10 ^ exponent`. Eighteen grids suffice because seventeen digits tell doubles apart. -/
def shortest (b : Binary) : Nat × Int :=
  searchGrid b (leadingExponent (Ratio.scaleTwo b.mantissa b.exponent) + 1) 20

/-! ### Formats -/

structure Format where
  /-- The least exponent of the leading digit that is written positionally; `none` for no bound. -/
  least : Option Int
  /-- The greatest such exponent; `none` for no bound. -/
  greatest : Option Int
  /-- Integral numbers end in `.0`. -/
  keepsFraction : Bool
  /-- A positive exponent carries a plus sign. -/
  signsExponent : Bool
  nan : String
  infinity : String
  negativeInfinity : String

/-- Positional notation of `ds * 10 ^ exponent`. -/
def positional (format : Format) (ds : List Char) (exponent : Int) : List Char :=
  match exponent with
  | .ofNat k => ds ++ List.replicate k '0' ++ if format.keepsFraction then ['.', '0'] else []
  | .negSucc k =>
    let places := k + 1
    if places < ds.length then ds.take (ds.length - places) ++ '.' :: ds.drop (ds.length - places)
    else '0' :: '.' :: (List.replicate (places - ds.length) '0' ++ ds)

/-- Scientific notation with one digit before the point. -/
def scientific (format : Format) (ds : List Char) (leading : Int) : List Char :=
  let mantissa := match ds with
    | d :: e :: rest => d :: '.' :: e :: rest
    | _ => ds
  let sign := if format.signsExponent && decide (0 ≤ leading) then ['+'] else []
  mantissa ++ 'e' :: (sign ++ (ofInt leading).toList)

def write (format : Format) (bits : UInt64) : String :=
  match classify bits with
  | .nan => format.nan
  | .infinite negative => if negative then format.negativeInfinity else format.infinity
  | .finite b =>
    let sign := if b.negative then ['-'] else []
    if b.mantissa = 0 then
      String.ofList (sign ++ '0' :: if format.keepsFraction then ['.', '0'] else [])
    else
      let (n, exponent) := shortest b
      let ds := digits n
      let leading := exponent + ds.length - 1
      let fixed := format.least.all (fun k => decide (k ≤ leading)) &&
        format.greatest.all (fun k => decide (leading ≤ k))
      String.ofList (sign ++ if fixed then positional format ds exponent else scientific format ds leading)

/-- Positional notation always, and no `.0`. -/
def plain : Format := ⟨none, none, false, false, "NaN", "inf", "-inf"⟩

end Reindexing.Decimal
