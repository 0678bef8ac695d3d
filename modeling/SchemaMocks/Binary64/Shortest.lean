import SchemaMocks.Binary64.Basic

set_option autoImplicit false
set_option relaxedAutoImplicit false

/-!
Decimal text of binary numbers: the fewest digits that read back. A number is the text of every
decimal strictly nearer to it than to its neighbours (ties included when the significand is even);
among those the multiples of the largest power of ten have the fewest digits, and of two such
multiples the nearer one is taken. Layouts say how the digits are set.
-/

namespace SchemaMocks

/-- Which of two equally near decimals is taken. -/
inductive TieRule where
  | even
  | up
  deriving DecidableEq

/-- How the digits of a number are set. -/
structure DecimalLayout where
  /-- The exponents of the first digit that are written positionally, or none for all of them. -/
  positional : Option (Int × Int)
  /-- Whether a whole number ends in a point and a zero. -/
  keepsPoint : Bool
  tie : TieRule

/-- A decimal: the value of its digits and the power of ten of the last one. -/
structure Decimal where
  digits : Nat
  power : Int
  deriving DecidableEq

namespace Finite64

/-- A value and the ends of the interval that rounds to it, over a common denominator. -/
structure Neighbourhood where
  low : Nat
  value : Nat
  high : Nat
  denominator : Nat
  closed : Bool

/-- The decimals that read back as a positive number. -/
def neighbourhood (x : Finite64) : Neighbourhood :=
  let scale := twoTo (x.exponent - 2).toNat
  let below := if x.significand == 4503599627370496 && x.exponent != -1074 then 1 else 2
  { low := (4 * x.significand - below) * scale
    value := 4 * x.significand * scale
    high := (4 * x.significand + 2) * scale
    denominator := twoTo (2 - x.exponent).toNat
    closed := x.significand % 2 == 0 }

/-- The multiple of `10 ^ power` that reads back, the nearer one where there are two. -/
def multipleAt (n : Neighbourhood) (tie : TieRule) (power : Int) : Option Nat :=
  let step := n.denominator * tenTo power.toNat
  let by10 := tenTo (-power).toNat
  let value := n.value * by10
  let k := value / step
  let inside (c : Nat) : Bool :=
    let c := c * step
    if n.closed then n.low * by10 ≤ c && c ≤ n.high * by10 else n.low * by10 < c && c < n.high * by10
  match inside k && k != 0, inside (k + 1) with
  | true, true =>
    let down := value - k * step
    let up := (k + 1) * step - value
    if down < up then some k
    else if up < down then some (k + 1)
    else match tie with
      | .even => some (if k % 2 == 0 then k else k + 1)
      | .up => some (k + 1)
  | true, false => some k
  | false, true => some (k + 1)
  | false, false => none

/-- Tries smaller and smaller powers of ten. -/
def shortestFrom (n : Neighbourhood) (tie : TieRule) : Nat → Int → Decimal
  | 0, power => ⟨n.value / n.denominator, power⟩
  | tries + 1, power =>
    match multipleAt n tie power with
    | some digits => ⟨digits, power⟩
    | none => shortestFrom n tie tries (power - 1)

/-- The decimal of fewest digits that reads back as the magnitude of a nonzero number. -/
def shortest (x : Finite64) (tie : TieRule) : Decimal :=
  let top : Int := x.significand.log2 + x.exponent + 1
  shortestFrom x.neighbourhood tie 40 (Int.fdiv (top * 30103) 100000 + 1)

end Finite64

def DecimalLayout.set (layout : DecimalLayout) (d : Decimal) : String :=
  let digits := (toString d.digits).toList
  let exponent : Int := d.power + digits.length - 1
  let isPositional := match layout.positional with
    | none => true
    | some (low, high) => decide (low ≤ exponent) && decide (exponent ≤ high)
  if isPositional then
    if 0 ≤ d.power then
      String.ofList (digits ++ List.replicate d.power.toNat '0')
        ++ (if layout.keepsPoint then ".0" else "")
    else if 0 ≤ exponent then
      let whole := (exponent + 1).toNat
      String.ofList (digits.take whole ++ '.' :: digits.drop whole)
    else
      "0." ++ String.ofList (List.replicate (-exponent - 1).toNat '0' ++ digits)
  else
    let mantissa := match digits with
      | first :: rest => if rest.isEmpty then [first] else first :: '.' :: rest
      | [] => []
    String.ofList mantissa ++ (if exponent < 0 then "e-" else "e+") ++ toString exponent.natAbs

def Finite64.format (x : Finite64) (layout : DecimalLayout) : String :=
  let d := if x.isZero then ⟨0, 0⟩ else x.shortest layout.tie
  (if x.negative then "-" else "") ++ layout.set d

/-- Numbers in JSON text: exponents from -5 to 15 are positional and a whole number keeps its point. -/
def DecimalLayout.json : DecimalLayout :=
  ⟨some (-5, 15), true, .even⟩

/-- Numbers in program text: never an exponent, and no point after a whole number. -/
def DecimalLayout.plain : DecimalLayout :=
  ⟨none, false, .up⟩

def Binary64.format (x : Binary64) (layout : DecimalLayout) : String :=
  match x with
  | .finite x => x.format layout
  | .infinite negative => if negative then "-inf" else "inf"
  | .nan => "NaN"

end SchemaMocks
