import SchemaMocks.Binary64.Shortest
import SchemaMocks.Text.Dictionary

set_option autoImplicit false
set_option relaxedAutoImplicit false

/-!
JSON values. A number is an integer of 64 bits, signed or unsigned, or a finite binary number; the
integer one and the binary number one are different values.
-/

namespace SchemaMocks

inductive Json.Number where
  | integer (value : Int) (fits : -9223372036854775808 ≤ value ∧ value < 18446744073709551616)
  | decimal (value : Finite64)
  deriving DecidableEq

/-- A JSON value. The entries of an object keep the order they are given in. -/
inductive Json where
  | null
  | bool (value : Bool)
  | number (value : Json.Number)
  | string (value : String)
  | array (items : List Json)
  | object (entries : List (String × Json))

namespace Json

instance : Inhabited Json := ⟨null⟩

mutual

private def decEqValue : (a b : Json) → Decidable (a = b)
  | null, null => isTrue rfl
  | bool a, bool b => decidable_of_iff (a = b) (by simp)
  | number a, number b => decidable_of_iff (a = b) (by simp)
  | string a, string b => decidable_of_iff (a = b) (by simp)
  | array a, array b =>
    match decEqItems a b with
    | isTrue h => isTrue (by rw [h])
    | isFalse h => isFalse (by simpa using h)
  | object a, object b =>
    match decEqEntries a b with
    | isTrue h => isTrue (by rw [h])
    | isFalse h => isFalse (by simpa using h)
  | null, bool _ | null, number _ | null, string _ | null, array _ | null, object _
  | bool _, null | bool _, number _ | bool _, string _ | bool _, array _ | bool _, object _
  | number _, null | number _, bool _ | number _, string _ | number _, array _ | number _, object _
  | string _, null | string _, bool _ | string _, number _ | string _, array _ | string _, object _
  | array _, null | array _, bool _ | array _, number _ | array _, string _ | array _, object _
  | object _, null | object _, bool _ | object _, number _ | object _, string _ | object _, array _ =>
    isFalse (by simp)

private def decEqItems : (a b : List Json) → Decidable (a = b)
  | [], [] => isTrue rfl
  | [], _ :: _ => isFalse (by simp)
  | _ :: _, [] => isFalse (by simp)
  | x :: xs, y :: ys =>
    match decEqValue x y, decEqItems xs ys with
    | isTrue h, isTrue hs => isTrue (by rw [h, hs])
    | isFalse h, _ => isFalse (by simp [h])
    | _, isFalse hs => isFalse (by simp [hs])

private def decEqEntries : (a b : List (String × Json)) → Decidable (a = b)
  | [], [] => isTrue rfl
  | [], _ :: _ => isFalse (by simp)
  | _ :: _, [] => isFalse (by simp)
  | (k, x) :: xs, (l, y) :: ys =>
    match decEq k l, decEqValue x y, decEqEntries xs ys with
    | isTrue hk, isTrue h, isTrue hs => isTrue (by rw [hk, h, hs])
    | isFalse hk, _, _ => isFalse (by simp [hk])
    | _, isFalse h, _ => isFalse (by simp [h])
    | _, _, isFalse hs => isFalse (by simp [hs])

end

instance : DecidableEq Json := decEqValue

namespace Number

/-- An integer, or the nearest binary number where it needs more than 64 bits. -/
def ofInt (n : Int) : Number :=
  if h : -9223372036854775808 ≤ n ∧ n < 18446744073709551616 then integer n h
  else match Binary64.ofInt n with
    | .finite x => decimal x
    | _ => decimal (Finite64.zero false)

def ofInt64 (n : Int64) : Number :=
  integer n.toInt ⟨Int64.le_toInt n, Int.lt_trans (Int64.toInt_lt n) (by decide)⟩

/-- The number as a signed word, where it is an integer in range. -/
def toInt64? : Number → Option Int64
  | integer n _ => if n < 9223372036854775808 then some (Int64.ofInt n) else none
  | decimal _ => none

/-- The number as a natural one, where it is an integer and not negative. -/
def toNat? : Number → Option Nat
  | integer n _ => if 0 ≤ n then some n.toNat else none
  | decimal _ => none

def toBinary : Number → Binary64
  | integer n _ => Binary64.ofInt n
  | decimal x => .finite x

def text : Number → String
  | integer n _ => toString n
  | decimal x => x.format .json

end Number

def int (n : Int) : Json :=
  number (Number.ofInt n)

def nat (n : Nat) : Json :=
  number (Number.ofInt n)

/-- A binary number; null where it is not finite. -/
def ofBinary : Binary64 → Json
  | .finite x => number (.decimal x)
  | _ => null

def strings (items : List String) : Json :=
  array (items.map string)

def ofOption (value : Option Json) : Json :=
  value.getD null

def get? (key : String) : Json → Option Json
  | object entries => Entries.get? key entries
  | _ => none

end Json

end SchemaMocks
