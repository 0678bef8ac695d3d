set_option autoImplicit false
set_option relaxedAutoImplicit false

/-!
Decimal numerals. A natural number is one or more ASCII digits, with an optional plus sign; an
integer may carry a minus sign instead. Readers refuse values outside the given range.
-/

namespace SchemaMocks.Text

def digitValue (c : Char) : Nat :=
  c.toNat - '0'.toNat

def digitsValue (acc : Nat) (cs : List Char) : Nat :=
  cs.foldl (fun n c => 10 * n + digitValue c) acc

def digits? (cs : List Char) : Option Nat :=
  if cs.isEmpty || !cs.all Char.isDigit then none else some (digitsValue 0 cs)

theorem digits?_eq_some_iff {cs : List Char} {n : Nat} :
    digits? cs = some n ↔ cs ≠ [] ∧ (∀ c ∈ cs, c.isDigit = true) ∧ digitsValue 0 cs = n := by
  have hguard : (cs.isEmpty || !cs.all Char.isDigit) = false ↔
      cs ≠ [] ∧ ∀ c ∈ cs, c.isDigit = true := by
    rw [Bool.or_eq_false_iff, List.isEmpty_eq_false_iff, Bool.not_eq_false', List.all_eq_true]
  rw [← and_assoc, ← hguard]
  unfold digits?
  cases cs.isEmpty || !cs.all Char.isDigit with
  | true => simp
  | false => simp

/-- A decimal numeral below `bound`, with an optional plus sign. -/
def natBelow? (bound : Nat) (cs : List Char) : Option Nat :=
  let body := match cs with
    | '+' :: rest => rest
    | _ => cs
  (digits? body).filter (· < bound)

/-- A decimal numeral from `low` to `high`, with an optional sign. -/
def intBetween? (low high : Int) (cs : List Char) : Option Int :=
  let value : Option Int := match cs with
    | '+' :: rest => (digits? rest).map Int.ofNat
    | '-' :: rest => (digits? rest).map fun n => -Int.ofNat n
    | _ => (digits? cs).map Int.ofNat
  value.filter fun n => low ≤ n && n ≤ high

def word64? (s : String) : Option UInt64 :=
  (natBelow? 18446744073709551616 s.toList).map UInt64.ofNat

def word32? (s : String) : Option UInt32 :=
  (natBelow? 4294967296 s.toList).map UInt32.ofNat

def padded (width n : Nat) : String :=
  let digits := toString n
  String.ofList (List.replicate (width - digits.length) '0') ++ digits

def hexByte (b : UInt8) : List Char :=
  [Nat.digitChar (b.toNat / 16), Nat.digitChar (b.toNat % 16)]

def hex (bytes : List UInt8) : String :=
  String.ofList (bytes.flatMap hexByte)

end SchemaMocks.Text
