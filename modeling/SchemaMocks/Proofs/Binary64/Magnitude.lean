import Mathlib.Algebra.Order.Field.Power
import Mathlib.Tactic.Positivity
import Mathlib.Tactic.Ring
import SchemaMocks.Binary64.Basic

set_option autoImplicit false
set_option relaxedAutoImplicit false

/-!
Bounds on binary numbers. A ratio is rounded at an exponent that leaves it 53 bits before the point,
so that a ratio within a power of two is rounded to a finite number within the next one. From this
every operation stays finite as long as its arguments are far below the largest number.
-/

namespace SchemaMocks

theorem twoTo_eq_pow (n : Nat) : twoTo n = 2 ^ n := rfl

theorem twoTo_add (m n : Nat) : twoTo (m + n) = twoTo m * twoTo n :=
  Nat.pow_add 2 m n

theorem twoTo_mono {m n : Nat} (h : m ≤ n) : twoTo m ≤ twoTo n :=
  Nat.pow_le_pow_right Nat.two_pos h

theorem Finite64.unitsPerOne_pos : 0 < Finite64.unitsPerOne :=
  twoTo_pos 1074

section Quotient

variable {num den c : Nat}

private theorem le_roundQuotient (hden : 0 < den) (h : den * c ≤ num) :
    c ≤ roundQuotient num den := by
  have hquotient : c ≤ num / den := (Nat.le_div_iff_mul_le hden).2 (by rwa [Nat.mul_comm])
  simp only [roundQuotient]
  split_ifs <;> omega

private theorem roundQuotient_le (h : num < den * c) : roundQuotient num den ≤ c := by
  have hquotient : num / den < c := Nat.div_lt_of_lt_mul h
  simp only [roundQuotient]
  split_ifs <;> omega

end Quotient

namespace Binary64

section Exponent

variable {num den : Nat}

theorem scaleDown_pos (num : Nat) (hden : 0 < den) (q : Int) : 0 < (scaleDown num den q).2 :=
  Nat.mul_pos hden (twoTo_pos _)

private theorem scaleDown_ratio (num den : Nat) (q : Int) :
    ((scaleDown num den q).1 : ℚ) / (scaleDown num den q).2 = num / den / 2 ^ q := by
  obtain ⟨k, rfl | rfl⟩ := q.eq_nat_or_neg <;> simp [scaleDown, twoTo_eq_pow, div_div]
  ring

private theorem mul_le_scaleDown_iff (num : Nat) (hden : 0 < den) (c : Nat) (q : Int) :
    (scaleDown num den q).2 * c ≤ (scaleDown num den q).1 ↔ (c : ℚ) * 2 ^ q ≤ num / den := by
  have hpos : (0 : ℚ) < (scaleDown num den q).2 := by exact_mod_cast scaleDown_pos num hden q
  rw [← le_div_iff₀ (by positivity), ← scaleDown_ratio, le_div_iff₀ hpos, mul_comm]
  exact_mod_cast Iff.rfl

private theorem scaleDown_lt_mul_iff (hden : 0 < den) (c : Nat) (q : Int) :
    (scaleDown num den q).1 < (scaleDown num den q).2 * c ↔ (num / den : ℚ) < c * 2 ^ q := by
  rw [← not_le, mul_le_scaleDown_iff num hden, not_le]

private theorem pow_log2_le (h : num ≠ 0) : ((2 : ℚ) ^ num.log2) ≤ num := by
  exact_mod_cast Nat.log2_self_le h

private theorem lt_pow_log2 (num : Nat) : (num : ℚ) < 2 ^ (num.log2 + 1) := by
  exact_mod_cast Nat.lt_log2_self

private theorem zpow_mul_pow {a : Int} {m n : Nat} (h : a + n = m) :
    (2 : ℚ) ^ a * 2 ^ n = 2 ^ m := by
  rw [← zpow_natCast, ← zpow_natCast, ← zpow_add₀ two_ne_zero, h]

private theorem ratio_near_guess (hnum : num ≠ 0) (hden : 0 < den) :
    (2 : ℚ) ^ ((num.log2 : Int) - den.log2 - 1) ≤ num / den ∧
      (num / den : ℚ) < 2 ^ ((num.log2 : Int) - den.log2 + 1) := by
  have hpos : (0 : ℚ) < den := by exact_mod_cast hden
  have hlow := pow_log2_le hnum
  have hhigh := lt_pow_log2 num
  have hdenlow := pow_log2_le hden.ne'
  have hdenhigh := lt_pow_log2 den
  constructor
  · rw [le_div_iff₀ hpos]
    calc (2 : ℚ) ^ ((num.log2 : Int) - den.log2 - 1) * den
        ≤ 2 ^ ((num.log2 : Int) - den.log2 - 1) * 2 ^ (den.log2 + 1) := by gcongr
      _ = 2 ^ num.log2 := zpow_mul_pow (by omega)
      _ ≤ num := hlow
  · rw [div_lt_iff₀ hpos]
    calc (num : ℚ) < 2 ^ (num.log2 + 1) := hhigh
      _ = 2 ^ ((num.log2 : Int) - den.log2 + 1) * 2 ^ den.log2 := (zpow_mul_pow (by omega)).symm
      _ ≤ 2 ^ ((num.log2 : Int) - den.log2 + 1) * den := by gcongr

def placeOf (num den : Nat) (guess : Int) : Int :=
  if (scaleDown num den guess).2 ≤ (scaleDown num den guess).1 then guess - 52 else guess - 53

theorem exponentOf_eq (num den : Nat) :
    exponentOf num den = max (placeOf num den (num.log2 - den.log2)) (-1074) :=
  rfl

private theorem placeOf_spec (hden : 0 < den) {guess : Int}
    (hlow : (2 : ℚ) ^ (guess - 1) ≤ num / den)
    (hhigh : (num / den : ℚ) < 2 ^ (guess + 1)) :
    (num / den : ℚ) < 2 ^ (placeOf num den guess + 53) ∧
      (2 : ℚ) ^ (placeOf num den guess + 52) ≤ num / den := by
  have hone := mul_le_scaleDown_iff num hden 1 guess
  rw [Nat.mul_one, Nat.cast_one, one_mul] at hone
  unfold placeOf
  split
  · rename_i hle
    rw [show guess - 52 + 53 = guess + 1 by ring, show guess - 52 + 52 = guess by ring]
    exact ⟨hhigh, hone.1 hle⟩
  · rename_i hlt
    rw [show guess - 53 + 53 = guess by ring, show guess - 53 + 52 = guess - 1 by ring]
    exact ⟨not_le.1 fun hle => hlt (hone.2 hle), hlow⟩

theorem exponentOf_spec (hnum : num ≠ 0) (hden : 0 < den) :
    -1074 ≤ exponentOf num den ∧ (num / den : ℚ) < 2 ^ (exponentOf num den + 53) ∧
      (exponentOf num den = -1074 ∨ (2 : ℚ) ^ (exponentOf num den + 52) ≤ num / den) := by
  obtain ⟨hlow, hhigh⟩ := ratio_near_guess hnum hden
  obtain ⟨hbelow, habove⟩ := placeOf_spec hden hlow hhigh
  rw [exponentOf_eq]
  generalize placeOf num den _ = place at *
  rcases le_total place (-1074) with hleast | hmore
  · rw [max_eq_right hleast]
    refine ⟨le_rfl, hbelow.trans_le ?_, .inl rfl⟩
    exact zpow_le_zpow_right₀ one_le_two (by omega)
  · rw [max_eq_left hmore]
    exact ⟨hmore, hbelow, .inr habove⟩

def significandOf (num den : Nat) : Nat :=
  roundQuotient (scaleDown num den (exponentOf num den)).1
    (scaleDown num den (exponentOf num den)).2

theorem significandOf_spec (hnum : num ≠ 0) (hden : 0 < den) :
    significandOf num den ≤ 9007199254740992 ∧
      (exponentOf num den = -1074 ∨ 4503599627370496 ≤ significandOf num den) := by
  obtain ⟨-, hbelow, habove⟩ := exponentOf_spec hnum hden
  rw [zpow_add₀ two_ne_zero, mul_comm] at hbelow habove
  constructor
  · refine roundQuotient_le ((scaleDown_lt_mul_iff hden _ _).2 (hbelow.trans_eq ?_))
    norm_num
  · refine habove.imp_right fun habove => le_roundQuotient (scaleDown_pos num hden _) ?_
    refine (mul_le_scaleDown_iff num hden _ _).2 (habove.trans_eq' ?_)
    norm_num

end Exponent

def IsWithin (k : Nat) : Binary64 → Prop
  | finite x => x.magnitude ≤ Finite64.unitsPerOne * twoTo k
  | _ => False

section Within

variable {j k num den : Nat} {x y : Binary64}

theorem IsWithin.mono (h : IsWithin j x) (hjk : j ≤ k) : IsWithin k x := by
  cases x with
  | finite x => exact Nat.le_trans h (Nat.mul_le_mul_left _ (twoTo_mono hjk))
  | infinite => exact h
  | nan => exact h

theorem IsWithin.eq_finite (h : IsWithin k x) : ∃ value, x = finite value := by
  cases x with
  | finite value => exact ⟨value, rfl⟩
  | infinite => exact h.elim
  | nan => exact h.elim

private theorem isWithin_finite (x : Finite64) (bits : Nat) (hbits : x.significand ≤ twoTo bits)
    (hexponent : x.exponent + bits ≤ k) : IsWithin k (finite x) := by
  have hleast := x.standard.2.1
  calc x.significand * twoTo (x.exponent + 1074).toNat
      ≤ twoTo bits * twoTo (x.exponent + 1074).toNat := Nat.mul_le_mul_right _ hbits
    _ = twoTo (bits + (x.exponent + 1074).toNat) := (twoTo_add _ _).symm
    _ ≤ twoTo (1074 + k) := twoTo_mono (by omega)
    _ = Finite64.unitsPerOne * twoTo k := twoTo_add _ _

private theorem isWithin_zero (negative : Bool) (k : Nat) :
    IsWithin k (finite (Finite64.zero negative)) :=
  isWithin_finite _ 0 (Nat.zero_le _) (by simp only [Finite64.zero]; omega)

theorem isWithin_roundRatio (negative : Bool) (hden : 0 < den) (h : num ≤ den * twoTo k)
    (hk : k ≤ 1000) : IsWithin (k + 1) (roundRatio negative num den) := by
  unfold roundRatio
  split_ifs with hnum
  · exact isWithin_zero negative k.succ
  · have hpos : (0 : ℚ) < den := by exact_mod_cast hden
    have hratio : (num / den : ℚ) ≤ 2 ^ (k : Int) := by
      rw [div_le_iff₀ hpos, zpow_natCast, mul_comm]
      exact_mod_cast h
    obtain ⟨hleast, -, habove⟩ := exponentOf_spec hnum hden
    obtain ⟨hmost, hbits⟩ := significandOf_spec hnum hden
    have hq : exponentOf num den + 52 ≤ k := by
      rcases habove with hleast | habove
      · omega
      · exact (zpow_le_zpow_iff_right₀ one_lt_two).1 (habove.trans hratio)
    dsimp only
    rw [← significandOf]
    generalize significandOf num den = m at *
    generalize exponentOf num den = q at *
    -- a significand that is rounded up to 54 bits is written at the next exponent
    by_cases hcarry : m = 9007199254740992
    · have hstandard : Finite64.Standard 4503599627370496 (q + 1) :=
        ⟨by decide, by omega, by omega, .inl (Nat.le_refl _)⟩
      simp only [if_pos hcarry, dif_pos hstandard]
      exact isWithin_finite ⟨negative, _, _, hstandard⟩ 52 le_rfl (by dsimp only; omega)
    · have hstandard : Finite64.Standard m q := ⟨by omega, hleast, by omega, hbits.symm⟩
      simp only [if_neg hcarry, dif_pos hstandard]
      exact isWithin_finite ⟨negative, _, _, hstandard⟩ 53 hmost (by dsimp only; omega)

theorem isWithin_ofInt {n : Int} (h : n.natAbs ≤ twoTo k) (hk : k ≤ 1000) :
    IsWithin (k + 1) (ofInt n) :=
  isWithin_roundRatio _ Nat.one_pos (by rwa [Nat.one_mul]) hk

private theorem IsWithin.neg (h : IsWithin k x) : IsWithin k x.neg := by
  cases x <;> exact h

theorem IsWithin.add (hx : IsWithin k x) (hy : IsWithin k y) (hk : k < 1000) :
    IsWithin (k + 2) (x.add y) := by
  obtain ⟨a, rfl⟩ := hx.eq_finite
  obtain ⟨b, rfl⟩ := hy.eq_finite
  unfold add
  dsimp only
  split
  · exact isWithin_zero _ _
  · refine isWithin_roundRatio _ Finite64.unitsPerOne_pos ?_ hk
    have hsum : (a.units + b.units).natAbs ≤ a.magnitude + b.magnitude := by
      unfold Finite64.units
      split <;> split <;> omega
    calc (a.units + b.units).natAbs ≤ a.magnitude + b.magnitude := hsum
      _ ≤ Finite64.unitsPerOne * twoTo k + Finite64.unitsPerOne * twoTo k := Nat.add_le_add hx hy
      _ = Finite64.unitsPerOne * twoTo (k + 1) := by rw [twoTo_succ, ← Nat.mul_assoc, Nat.mul_two]

theorem IsWithin.sub (hx : IsWithin k x) (hy : IsWithin k y) (hk : k < 1000) :
    IsWithin (k + 2) (x.sub y) :=
  hx.add hy.neg hk

theorem IsWithin.mul (hx : IsWithin j x) (hy : IsWithin k y) (hjk : j + k ≤ 1000) :
    IsWithin (j + k + 1) (x.mul y) := by
  obtain ⟨a, rfl⟩ := hx.eq_finite
  obtain ⟨b, rfl⟩ := hy.eq_finite
  have hpos := Finite64.unitsPerOne_pos
  unfold mul
  dsimp only
  refine isWithin_roundRatio _ (Nat.mul_pos hpos hpos) ?_ hjk
  calc a.magnitude * b.magnitude
      ≤ Finite64.unitsPerOne * twoTo j * (Finite64.unitsPerOne * twoTo k) := Nat.mul_le_mul hx hy
    _ = Finite64.unitsPerOne * Finite64.unitsPerOne * twoTo (j + k) := by
        rw [twoTo_add, Nat.mul_mul_mul_comm]

theorem IsWithin.round (hx : IsWithin k x) (hk : k < 1000) : IsWithin (k + 2) x.round := by
  obtain ⟨a, rfl⟩ := hx.eq_finite
  refine isWithin_roundRatio _ Nat.one_pos ?_ hk
  replace hx : a.magnitude ≤ Finite64.unitsPerOne * twoTo k := hx
  have hone : Finite64.unitsPerOne ≤ Finite64.unitsPerOne * twoTo k :=
    Nat.le_mul_of_pos_right _ (twoTo_pos k)
  rw [Nat.one_mul, twoTo_succ]
  generalize Finite64.unitsPerOne = u at *
  refine Nat.div_le_of_le_mul ?_
  calc 2 * a.magnitude + u ≤ 2 * (u * twoTo k) + 2 * (u * twoTo k) := by omega
    _ = 2 * u * (twoTo k * 2) := by ring

theorem IsWithin.div {b : Finite64} (hx : IsWithin k x) (hb : Finite64.unitsPerOne ≤ b.magnitude)
    (hk : k ≤ 1000) : IsWithin (k + 1) (x.div (finite b)) := by
  obtain ⟨a, rfl⟩ := hx.eq_finite
  have hpos : 0 < b.magnitude := Nat.lt_of_lt_of_le Finite64.unitsPerOne_pos hb
  have hzero : b.isZero ≠ true := by
    intro hzero
    rw [Finite64.magnitude, eq_of_beq hzero, Nat.zero_mul] at hpos
    exact Nat.lt_irrefl 0 hpos
  unfold div
  dsimp only
  rw [if_neg hzero]
  exact isWithin_roundRatio _ hpos (Nat.le_trans hx (Nat.mul_le_mul_right _ hb)) hk

end Within

end Binary64

end SchemaMocks
