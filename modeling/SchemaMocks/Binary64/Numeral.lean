import SchemaMocks.Binary64.Basic
import SchemaMocks.Text.Numeral

set_option autoImplicit false
set_option relaxedAutoImplicit false

/-!
Decimal numerals of binary numbers. A numeral is an optional sign and either a word for infinity or
for an undefined value, or digits with at most one point and an optional exponent. It denotes the
number nearest to its value.
-/

namespace SchemaMocks.Binary64

def spanDigits (cs : List Char) : List Char × List Char :=
  cs.span Char.isDigit

/-- The number nearest to `digits * 10 ^ power`, without computing powers that cannot matter. -/
def nearestDecimal (negative : Bool) (digits : Nat) (power : Int) : Binary64 :=
  let size : Int := (toString digits).length + power
  if digits = 0 then finite (Finite64.zero negative)
  else if 400 < size then infinite negative
  else if size < -400 then finite (Finite64.zero negative)
  else ofDecimal negative digits power

/-- An exponent: a mark, an optional sign and digits. Nothing at all is the exponent zero. -/
def exponent? : List Char → Option Int
  | [] => some 0
  | mark :: rest =>
    if mark = 'e' || mark = 'E' then
      match rest with
      | '+' :: digits => (Text.digits? digits).map Int.ofNat
      | '-' :: digits => (Text.digits? digits).map fun n => -Int.ofNat n
      | _ => (Text.digits? rest).map Int.ofNat
    else none

/-- Digits with at most one point, and an exponent. -/
def unsigned? (negative : Bool) (cs : List Char) : Option Binary64 :=
  let (whole, rest) := spanDigits cs
  let (part, rest) := match rest with
    | '.' :: rest => spanDigits rest
    | _ => ([], rest)
  if whole.isEmpty && part.isEmpty then none
  else (exponent? rest).map fun e =>
    nearestDecimal negative (Text.digitsValue 0 (whole ++ part)) (e - part.length)

/-- A word for infinity or for an undefined value, in any case. -/
def word? (negative : Bool) (cs : List Char) : Option Binary64 :=
  let word := String.ofList (cs.map Char.toLower)
  if word == "inf" || word == "infinity" then some (infinite negative)
  else if word == "nan" then some nan
  else none

def ofNumeral? (cs : List Char) : Option Binary64 :=
  let (negative, body) := match cs with
    | '+' :: rest => (false, rest)
    | '-' :: rest => (true, rest)
    | _ => (false, cs)
  (word? negative body).orElse fun _ => unsigned? negative body

end SchemaMocks.Binary64
