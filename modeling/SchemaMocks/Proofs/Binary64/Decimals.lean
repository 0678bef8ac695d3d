import Mathlib.Tactic.SplitIfs
import SchemaMocks.Binary64.Shortest
import SchemaMocks.Proofs.Binary64.Magnitude

set_option autoImplicit false
set_option relaxedAutoImplicit false

/-!
The decimals that numbers are written with. A decimal lies in the interval of its number, since a
multiple of some power of ten is found there before the tries run out. So no decimal is above the
middle between the two largest numbers, but the one of the largest number itself.
-/

namespace SchemaMocks

theorem tenTo_eq_pow (n : Nat) : tenTo n = 10 ^ n := rfl

theorem cast_tenTo (n : Nat) : (tenTo n : ℚ) = 10 ^ (n : Int) := by
  rw [tenTo_eq_pow, zpow_natCast]
  exact Nat.cast_pow 10 n

theorem tenTo_mono {m n : Nat} (h : m ≤ n) : tenTo m ≤ tenTo n :=
  Nat.pow_le_pow_right (by decide) h

private theorem tenTo_le_twoTo (k : Nat) : tenTo (3 * k) ≤ twoTo (10 * k) := by
  rw [tenTo_eq_pow, twoTo_eq_pow, Nat.pow_mul, Nat.pow_mul]
  exact Nat.pow_le_pow_left (by decide) k

def Decimal.value (d : Decimal) : ℚ :=
  d.digits * 10 ^ d.power

private theorem Decimal.value_eq (d : Decimal) :
    d.value = (d.digits * tenTo d.power.toNat : Nat) / (tenTo (-d.power).toNat : Nat) := by
  obtain ⟨digits, power⟩ := d
  rw [value]
  obtain ⟨k, rfl | rfl⟩ := power.eq_nat_or_neg
  · simp [tenTo_eq_pow]
  · simp [tenTo_eq_pow, div_eq_mul_inv]

private theorem Decimal.value_le_iff {d : Decimal} {high den : Nat} (hden : 0 < den) :
    d.value ≤ high / den ↔
      d.digits * (den * tenTo d.power.toNat) ≤ high * tenTo (-d.power).toNat := by
  have hpos : (0 : ℚ) < den := by exact_mod_cast hden
  have hten : (0 : ℚ) < tenTo (-d.power).toNat := by exact_mod_cast tenTo_pos _
  rw [value_eq, div_le_div_iff₀ hten hpos, Nat.mul_left_comm, mul_comm den]
  exact_mod_cast Iff.rfl

theorem Decimal.le_value_iff {d : Decimal} {low : Nat} : (low : ℚ) ≤ d.value ↔
    low * tenTo (-d.power).toNat ≤ d.digits * tenTo d.power.toNat := by
  have hten : (0 : ℚ) < tenTo (-d.power).toNat := by exact_mod_cast tenTo_pos _
  rw [value_eq, le_div_iff₀ hten]
  exact_mod_cast Iff.rfl

namespace Finite64

section Multiples

variable {n : Neighbourhood} {tie : TieRule} {power : Int}

private theorem le_of_inside {closed : Bool} {low c high : Nat}
    (h : (if closed then decide (low ≤ c) && decide (c ≤ high)
      else decide (low < c) && decide (c < high)) = true) : c ≤ high := by
  split at h <;> simp only [Bool.and_eq_true, decide_eq_true_eq] at h <;> omega

private theorem inside_of_lt (closed : Bool) (low c high : Nat) (hlow : low < c)
    (hhigh : c < high) :
    (if closed then decide (low ≤ c) && decide (c ≤ high)
      else decide (low < c) && decide (c < high)) = true := by
  split <;> simp only [Bool.and_eq_true, decide_eq_true_eq] <;> omega

private theorem multipleAt_le (hden : 0 < n.denominator) {digits : Nat}
    (h : multipleAt n tie power = some digits) :
    Decimal.value ⟨digits, power⟩ ≤ n.high / n.denominator := by
  rw [Decimal.value_le_iff hden]
  unfold multipleAt at h
  dsimp only at h ⊢
  generalize n.value * tenTo (-power).toNat / (n.denominator * tenTo power.toNat) = k at h
  split at h
  · rename_i hdown hup
    have hk := le_of_inside (Bool.and_eq_true_iff.1 hdown).1
    have hnext := le_of_inside hup
    split at h
    · cases h
      exact hk
    · split at h
      · cases h
        exact hnext
      · split at h <;> cases h
        · split
          · exact hk
          · exact hnext
        · exact hnext
  · rename_i hdown hup
    cases h
    exact le_of_inside (Bool.and_eq_true_iff.1 hdown).1
  · rename_i hdown hup
    cases h
    exact le_of_inside hup
  · cases h

private theorem multipleAt_ne_none (hden : 0 < n.denominator) (hlow : n.low ≤ n.value)
    (hroom : n.value * tenTo (-power).toNat + n.denominator * tenTo power.toNat <
      n.high * tenTo (-power).toNat) : multipleAt n tie power ≠ none := by
  have hstep : 0 < n.denominator * tenTo power.toNat := Nat.mul_pos hden (tenTo_pos _)
  have hbelow : n.low * tenTo (-power).toNat ≤ n.value * tenTo (-power).toNat :=
    Nat.mul_le_mul_right _ hlow
  unfold multipleAt
  dsimp only
  generalize n.value * tenTo (-power).toNat = value at *
  generalize n.denominator * tenTo power.toNat = step at *
  have hnext : (value / step + 1) * step = value / step * step + step := Nat.succ_mul _ _
  have hquotient : value / step * step ≤ value := Nat.div_mul_le_self value step
  have hremainder : value < value / step * step + step := Nat.lt_div_mul_add hstep
  have hinside := inside_of_lt n.closed (n.low * tenTo (-power).toNat) ((value / step + 1) * step)
    (n.high * tenTo (-power).toNat) (by omega) (by omega)
  intro hnone
  split at hnone
  · split at hnone
    · cases hnone
    · split at hnone
      · cases hnone
      · split at hnone <;> cases hnone
  · cases hnone
  · cases hnone
  · rename_i hno
    rw [hinside] at hno
    cases hno

private theorem shortestFrom_le (hden : 0 < n.denominator) (hvalue : n.value ≤ n.high) {tries : Nat}
    (hfound : power ≤ tries ∨ ∃ i < tries, multipleAt n tie (power - i) ≠ none) :
    (shortestFrom n tie tries power).value ≤ n.high / n.denominator := by
  induction tries generalizing power with
  | zero =>
    have hpower : power ≤ 0 := by
      rcases hfound with hpower | ⟨i, hi, -⟩
      · exact hpower
      · exact absurd hi (Nat.not_lt_zero i)
    have hnone : power.toNat = 0 := by omega
    rw [shortestFrom, Decimal.value_le_iff hden]
    dsimp only
    rw [hnone, tenTo_zero, Nat.mul_one]
    calc n.value / n.denominator * n.denominator ≤ n.value := Nat.div_mul_le_self _ _
      _ ≤ n.high := hvalue
      _ ≤ n.high * tenTo (-power).toNat := Nat.le_mul_of_pos_right _ (tenTo_pos _)
  | succ tries ih =>
    rw [shortestFrom]
    split
    · rename_i digits hdigits
      exact multipleAt_le hden hdigits
    · rename_i hnone
      refine ih ?_
      rcases hfound with hpower | ⟨i, hi, hmultiple⟩
      · exact .inl (by omega)
      · cases i with
        | zero => exact absurd (by simpa using hnone) hmultiple
        | succ i =>
          refine .inr ⟨i, by omega, ?_⟩
          rwa [show power - 1 - (i : Int) = power - ((i + 1 : Nat) : Int) by omega]

end Multiples

def lastMiddle : Nat :=
  18014398509481981 * twoTo 970

section Largest

variable {x : Finite64}

private theorem high_le_lastMiddle (hx : x.exponent = 971 → x.significand ≠ 9007199254740991) :
    x.neighbourhood.high ≤ lastMiddle * x.neighbourhood.denominator := by
  obtain ⟨hbits, hleast, hmost, -⟩ := x.standard
  have hhigh : x.neighbourhood.high = (4 * x.significand + 2) * twoTo (x.exponent - 2).toNat := rfl
  have hden : 0 < x.neighbourhood.denominator := twoTo_pos _
  have hmiddle : lastMiddle = 2 * 18014398509481981 * twoTo 969 := by
    rw [lastMiddle, twoTo_succ]
    ring
  refine Nat.le_trans ?_ (Nat.le_mul_of_pos_right _ hden)
  rw [hhigh, hmiddle]
  by_cases htop : x.exponent = 971
  · have hless := hx htop
    have hplace : (x.exponent - 2).toNat = 969 := by omega
    rw [hplace]
    exact Nat.mul_le_mul_right _ (by omega)
  · have hplace : (x.exponent - 2).toNat ≤ 968 := by omega
    calc (4 * x.significand + 2) * twoTo (x.exponent - 2).toNat
        ≤ 2 * 18014398509481983 * twoTo 968 := Nat.mul_le_mul (by omega) (twoTo_mono hplace)
      _ ≤ 2 * 18014398509481981 * (twoTo 968 * 2) := by
        generalize twoTo 968 = power
        omega
      _ = 2 * 18014398509481981 * twoTo 969 := by rw [← twoTo_succ]

private theorem shortest_le_high (hx : x.isZero = false) (tie : TieRule) :
    (x.shortest tie).value ≤ x.neighbourhood.high / x.neighbourhood.denominator := by
  have hsignificand : x.significand ≠ 0 := by simpa [isZero] using hx
  have hlog : x.significand.log2 < 53 := (Nat.log2_lt hsignificand).2 x.standard.1
  have hden : 0 < x.neighbourhood.denominator := twoTo_pos _
  have hvalue : x.neighbourhood.value ≤ x.neighbourhood.high :=
    Nat.mul_le_mul_right _ (Nat.le_add_right _ _)
  refine shortestFrom_le hden hvalue ?_
  rw [Int.fdiv_eq_ediv_of_nonneg _ (by decide)]
  by_cases hsmall : ((x.significand.log2 : Int) + x.exponent + 1) * 30103 / 100000 + 1 ≤ 40
  · exact .inl hsmall
  · refine .inr ⟨39, by decide, ?_⟩
    generalize hpower : ((x.significand.log2 : Int) + x.exponent + 1) * 30103 / 100000 + 1 -
      (39 : Nat) = power
    have hmost := x.standard.2.2.1
    have hone : x.neighbourhood.denominator = 1 := by
      have hnone : (2 - x.exponent).toNat = 0 := by omega
      rw [neighbourhood, hnone, twoTo_zero]
    have hby : tenTo (-power).toNat = 1 := by
      have hnone : (-power).toNat = 0 := by omega
      rw [hnone, tenTo_zero]
    have hfits : tenTo power.toNat < 2 * twoTo (x.exponent - 2).toNat := by
      have hpos := twoTo_pos (x.exponent - 2).toNat
      calc tenTo power.toNat ≤ tenTo (3 * ((power.toNat + 2) / 3)) := tenTo_mono (by omega)
        _ ≤ twoTo (10 * ((power.toNat + 2) / 3)) := tenTo_le_twoTo _
        _ ≤ twoTo (x.exponent - 2).toNat := twoTo_mono (by omega)
        _ < 2 * twoTo (x.exponent - 2).toNat := by omega
    have hlow : x.neighbourhood.low ≤ x.neighbourhood.value :=
      Nat.mul_le_mul_right _ (Nat.sub_le _ _)
    refine multipleAt_ne_none hden hlow ?_
    rw [hone, hby, Nat.mul_one, Nat.mul_one, Nat.one_mul]
    calc 4 * x.significand * twoTo (x.exponent - 2).toNat + tenTo power.toNat
        < 4 * x.significand * twoTo (x.exponent - 2).toNat + 2 * twoTo (x.exponent - 2).toNat :=
          Nat.add_lt_add_left hfits _
      _ = (4 * x.significand + 2) * twoTo (x.exponent - 2).toNat := (Nat.add_mul _ _ _).symm

end Largest

end Finite64

def Decimal.IsModerate (d : Decimal) : Prop :=
  d.value ≤ Finite64.lastMiddle ∨ d = ⟨17976931348623157, 292⟩

theorem Decimal.isModerate_zero : IsModerate ⟨0, 0⟩ := by
  left
  rw [value, Nat.cast_zero, zero_mul]
  exact Nat.cast_nonneg _

theorem Finite64.shortest_isModerate {x : Finite64} (hx : x.isZero = false) (tie : TieRule) :
    (x.shortest tie).IsModerate := by
  by_cases htop : x.exponent = 971 ∧ x.significand = 9007199254740991
  · obtain ⟨negative, significand, exponent, standard⟩ := x
    obtain ⟨rfl, rfl⟩ := htop
    have hdecimal : ∀ negative : Bool,
        shortest ⟨negative, 9007199254740991, 971, by decide⟩ .even = ⟨17976931348623157, 292⟩ ∧
          shortest ⟨negative, 9007199254740991, 971, by decide⟩ .up = ⟨17976931348623157, 292⟩ := by
      decide +kernel
    refine .inr ?_
    cases tie with
    | even => exact (hdecimal negative).1
    | up => exact (hdecimal negative).2
  · have hhigh := high_le_lastMiddle fun hexponent hsignificand => htop ⟨hexponent, hsignificand⟩
    have hpos : (0 : ℚ) < x.neighbourhood.denominator := by exact_mod_cast twoTo_pos _
    refine .inl ((shortest_le_high hx tie).trans ?_)
    rw [div_le_iff₀ hpos]
    exact_mod_cast hhigh

end SchemaMocks
