import SchemaMocks.Binary64.Power

set_option autoImplicit false
set_option relaxedAutoImplicit false

/-!
Binary floating-point numbers with 53 significant bits. A finite number is a sign and
`significand * 2 ^ exponent` in standard form, so equal numbers of equal sign are equal terms. The
view of a finite number is its exact value counted in units of the least positive number; every
operation takes the exact result in that view and rounds once, to the nearest number, ties to even.
-/

namespace SchemaMocks

/-- The standard form: at most 53 bits, and all 53 of them used unless the exponent is least. The
bounds are the powers 53 and 52 of two. -/
def Finite64.Standard (significand : Nat) (exponent : Int) : Prop :=
  significand < 9007199254740992 ∧ -1074 ≤ exponent ∧ exponent ≤ 971
    ∧ (4503599627370496 ≤ significand ∨ exponent = -1074)

instance (significand : Nat) (exponent : Int) :
    Decidable (Finite64.Standard significand exponent) :=
  inferInstanceAs (Decidable (_ ∧ _ ∧ _ ∧ (_ ∨ _)))

/-- A finite number; zero has two signs. -/
structure Finite64 where
  negative : Bool
  significand : Nat
  exponent : Int
  standard : Finite64.Standard significand exponent
  deriving DecidableEq

/-- A finite number, an infinity, or the result of an undefined operation. -/
inductive Binary64 where
  | finite (x : Finite64)
  | infinite (negative : Bool)
  | nan
  deriving DecidableEq

namespace Finite64

def zero (negative : Bool) : Finite64 :=
  ⟨negative, 0, -1074, by decide⟩

instance : Inhabited Finite64 := ⟨zero false⟩

def magnitude (x : Finite64) : Nat :=
  x.significand * twoTo (x.exponent + 1074).toNat

def units (x : Finite64) : Int :=
  if x.negative then -(x.magnitude : Int) else x.magnitude

def unitsPerOne : Nat := twoTo 1074

def isZero (x : Finite64) : Bool :=
  x.significand == 0

def neg (x : Finite64) : Finite64 :=
  { x with negative := !x.negative }

def floor (x : Finite64) : Int :=
  Int.fdiv x.units unitsPerOne

def ceil (x : Finite64) : Int :=
  -Int.fdiv (-x.units) unitsPerOne

def trunc (x : Finite64) : Int :=
  Int.tdiv x.units unitsPerOne

def isWhole (x : Finite64) : Bool :=
  x.magnitude % unitsPerOne == 0

end Finite64

/-- The quotient rounded to the nearest integer, ties to even. -/
def roundQuotient (num den : Nat) : Nat :=
  let q := num / den
  let r := num % den
  if 2 * r < den then q
  else if den < 2 * r then q + 1
  else if q % 2 == 0 then q else q + 1

namespace Binary64

/-- Scales a quotient by a power of two: the numerator and the denominator of `num / den / 2 ^ q`. -/
def scaleDown (num den : Nat) (q : Int) : Nat × Nat :=
  (num * twoTo (-q).toNat, den * twoTo q.toNat)

/-- The exponent that leaves 53 bits before the point, or the least one. -/
def exponentOf (num den : Nat) : Int :=
  let guess : Int := (num.log2 : Int) - den.log2
  let (n, d) := scaleDown num den guess
  max (if d ≤ n then guess - 52 else guess - 53) (-1074)

/-- The number nearest to `num / den`, ties to even; beyond the largest number, infinity. -/
def roundRatio (negative : Bool) (num den : Nat) : Binary64 :=
  if num = 0 then finite (Finite64.zero negative)
  else
    let q := exponentOf num den
    let (n, d) := scaleDown num den q
    let m := roundQuotient n d
    let (m, q) := if m = 9007199254740992 then (4503599627370496, q + 1) else (m, q)
    if h : Finite64.Standard m q then finite ⟨negative, m, q, h⟩ else infinite negative

def ofInt (n : Int) : Binary64 :=
  roundRatio (n < 0) n.natAbs 1

def ofDecimal (negative : Bool) (digits : Nat) (power : Int) : Binary64 :=
  roundRatio negative (digits * tenTo power.toNat) (tenTo (-power).toNat)

/-- Whether a number is negative; a zero may be. -/
def isNegative : Binary64 → Bool
  | finite x => x.negative
  | infinite negative => negative
  | nan => false

/-- Whether the first number is below the second; false where one is undefined. -/
def lt : Binary64 → Binary64 → Bool
  | nan, _ => false
  | _, nan => false
  | finite x, finite y => x.units < y.units
  | finite _, infinite negative => !negative
  | infinite negative, finite _ => negative
  | infinite a, infinite b => a && !b

def le : Binary64 → Binary64 → Bool
  | nan, _ => false
  | _, nan => false
  | finite x, finite y => x.units ≤ y.units
  | finite _, infinite negative => !negative
  | infinite negative, finite _ => negative
  | infinite a, infinite b => a || !b

def neg : Binary64 → Binary64
  | finite x => finite x.neg
  | infinite negative => infinite (!negative)
  | nan => nan

/-- The sum, rounded once. An exact zero is negative only where both terms are. -/
def add : Binary64 → Binary64 → Binary64
  | nan, _ => nan
  | _, nan => nan
  | infinite a, infinite b => if a == b then infinite a else nan
  | infinite a, finite _ => infinite a
  | finite _, infinite b => infinite b
  | finite x, finite y =>
    let sum := x.units + y.units
    if sum = 0 then finite (Finite64.zero (x.negative && y.negative))
    else roundRatio (sum < 0) sum.natAbs Finite64.unitsPerOne

def sub (x y : Binary64) : Binary64 :=
  add x (neg y)

def mul : Binary64 → Binary64 → Binary64
  | nan, _ => nan
  | _, nan => nan
  | infinite a, infinite b => infinite (a != b)
  | infinite a, finite y => if y.isZero then nan else infinite (a != y.negative)
  | finite x, infinite b => if x.isZero then nan else infinite (x.negative != b)
  | finite x, finite y =>
    roundRatio (x.negative != y.negative) (x.magnitude * y.magnitude)
      (Finite64.unitsPerOne * Finite64.unitsPerOne)

def div : Binary64 → Binary64 → Binary64
  | nan, _ => nan
  | _, nan => nan
  | infinite _, infinite _ => nan
  | infinite a, finite y => infinite (a != y.negative)
  | finite x, infinite b => finite (Finite64.zero (x.negative != b))
  | finite x, finite y =>
    if y.isZero then
      if x.isZero then nan else infinite (x.negative != y.negative)
    else roundRatio (x.negative != y.negative) x.magnitude y.magnitude

/-- The nearest integer, halves away from zero; the sign of zero stays. -/
def round : Binary64 → Binary64
  | finite x =>
    roundRatio x.negative ((2 * x.magnitude + Finite64.unitsPerOne) / (2 * Finite64.unitsPerOne)) 1
  | other => other

def clampInt64 (n : Int) : Int64 :=
  Int64.ofInt (max (-9223372036854775808) (min n 9223372036854775807))

/-- The integer part clamped to 64 signed bits; zero where undefined. -/
def toInt64 : Binary64 → Int64
  | finite x => clampInt64 x.trunc
  | infinite negative => clampInt64 (if negative then -9223372036854775808 else 9223372036854775808)
  | nan => 0

end Binary64

end SchemaMocks
