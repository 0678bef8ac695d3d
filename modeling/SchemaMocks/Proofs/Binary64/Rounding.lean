import SchemaMocks.Proofs.Binary64.Magnitude

set_option autoImplicit false
set_option relaxedAutoImplicit false

/-!
Rounding respects the order of ratios. A ratio that is not above another one is not rounded to a
larger number, and where the larger ratio is rounded to a finite number the smaller one is too. So
is a product of numbers that are not above the factors of a finite product.
-/

namespace SchemaMocks

section Quotient

variable {num den num' den' : Nat}

theorem roundQuotient_near (num : Nat) (hden : 0 < den) :
    2 * (roundQuotient num den * den) ≤ 2 * num + den ∧
      2 * num ≤ 2 * (roundQuotient num den * den) + den ∧
      (2 * (roundQuotient num den * den) = 2 * num + den → roundQuotient num den % 2 = 0) ∧
      (2 * num = 2 * (roundQuotient num den * den) + den → roundQuotient num den % 2 = 0) := by
  have hsum : num / den * den + num % den = num := by
    rw [Nat.mul_comm]
    exact Nat.div_add_mod num den
  have hrest : num % den < den := Nat.mod_lt num hden
  have hnext : (num / den + 1) * den = num / den * den + den := Nat.succ_mul _ _
  simp only [roundQuotient]
  split_ifs with hbelow habove heven
  · omega
  · rw [hnext]
    omega
  · rw [beq_iff_eq] at heven
    omega
  · rw [beq_iff_eq] at heven
    rw [hnext]
    omega

private theorem roundQuotient_mono (hden : 0 < den) (hden' : 0 < den')
    (h : num * den' ≤ num' * den) :
    roundQuotient num den ≤ roundQuotient num' den' := by
  obtain ⟨hlow, -, htie, -⟩ := roundQuotient_near num hden
  obtain ⟨-, hhigh, -, htie'⟩ := roundQuotient_near num' hden'
  generalize roundQuotient num den = r at *
  generalize roundQuotient num' den' = r' at *
  by_contra hless
  -- over the common denominator the two bounds meet, so both quotients are ties
  have hleft : 2 * (r * (den * den')) ≤ 2 * (num * den') + den * den' := by
    calc 2 * (r * (den * den')) = 2 * (r * den) * den' := by ring
      _ ≤ (2 * num + den) * den' := Nat.mul_le_mul_right _ hlow
      _ = 2 * (num * den') + den * den' := by ring
  have hright : 2 * (num' * den) ≤ 2 * (r' * (den * den')) + den * den' := by
    calc 2 * (num' * den) = 2 * num' * den := by ring
      _ ≤ (2 * (r' * den') + den') * den := Nat.mul_le_mul_right _ hhigh
      _ = 2 * (r' * (den * den')) + den * den' := by ring
  have hcommon : 0 < den * den' := Nat.mul_pos hden hden'
  have hnext : (r' + 1) * (den * den') ≤ r * (den * den') := Nat.mul_le_mul_right _ (by omega)
  rw [Nat.succ_mul] at hnext
  have hr : r = r' + 1 := by
    refine Nat.eq_of_mul_eq_mul_right hcommon ?_
    rw [Nat.succ_mul]
    omega
  have hdown : 2 * (r * den) = 2 * num + den := by
    refine Nat.eq_of_mul_eq_mul_right hden' ?_
    calc 2 * (r * den) * den' = 2 * (r * (den * den')) := by ring
      _ = 2 * (num * den') + den * den' := by omega
      _ = (2 * num + den) * den' := by ring
  have hup : 2 * num' = 2 * (r' * den') + den' := by
    refine Nat.eq_of_mul_eq_mul_right hden ?_
    calc 2 * num' * den = 2 * (num' * den) := by ring
      _ = 2 * (r' * (den * den')) + den * den' := by omega
      _ = (2 * (r' * den') + den') * den := by ring
  have heven := htie hdown
  have heven' := htie' hup
  omega

end Quotient

def Finite64.limit : Nat :=
  twoTo 2098

private theorem Finite64.magnitude_lt (x : Finite64) : x.magnitude < Finite64.limit := by
  obtain ⟨hbits, hleast, hmost, -⟩ := x.standard
  calc x.significand * twoTo (x.exponent + 1074).toNat
      < twoTo 53 * twoTo (x.exponent + 1074).toNat :=
        Nat.mul_lt_mul_of_pos_right hbits (twoTo_pos _)
    _ = twoTo (53 + (x.exponent + 1074).toNat) := (twoTo_add _ _).symm
    _ ≤ twoTo 2098 := twoTo_mono (by omega)

namespace Binary64

def roundedOf (num den : Nat) : Nat :=
  significandOf num den * twoTo (exponentOf num den + 1074).toNat

section Ratio

variable {num den num' den' : Nat}

theorem roundRatio_cases (negative : Bool) (hnum : num ≠ 0) (hden : 0 < den) :
    (∃ x, roundRatio negative num den = finite x ∧ x.magnitude = roundedOf num den) ∨
      (roundRatio negative num den = infinite negative ∧
        Finite64.limit ≤ roundedOf num den) := by
  obtain ⟨hleast, -, -⟩ := exponentOf_spec hnum hden
  obtain ⟨hmost, hbits⟩ := significandOf_spec hnum hden
  unfold roundRatio roundedOf
  rw [if_neg hnum]
  dsimp only
  rw [← significandOf]
  generalize significandOf num den = m at *
  generalize exponentOf num den = q at *
  have hbeyond (bits : Nat) (hm : twoTo bits ≤ m) (hq : 1024 ≤ q + bits) :
      Finite64.limit ≤ m * twoTo (q + 1074).toNat := by
    calc twoTo 2098 ≤ twoTo (bits + (q + 1074).toNat) := twoTo_mono (by omega)
      _ = twoTo bits * twoTo (q + 1074).toNat := twoTo_add _ _
      _ ≤ m * twoTo (q + 1074).toNat := Nat.mul_le_mul_right _ hm
  by_cases hcarry : m = 9007199254740992
  · subst hcarry
    simp only [if_true]
    by_cases hq : q + 1 ≤ 971
    · have hstandard : Finite64.Standard 4503599627370496 (q + 1) :=
        ⟨by decide, by omega, hq, .inl (Nat.le_refl _)⟩
      refine .inl ⟨_, dif_pos hstandard, ?_⟩
      have hplace : (q + 1 + 1074).toNat = (q + 1074).toNat + 1 := by omega
      rw [Finite64.magnitude, hplace, twoTo_succ]
      ring
    · have hno : ¬Finite64.Standard 4503599627370496 (q + 1) := fun h => hq h.2.2.1
      exact .inr ⟨dif_neg hno, hbeyond 53 (by decide) (by omega)⟩
  · simp only [if_neg hcarry]
    by_cases hq : q ≤ 971
    · have hstandard : Finite64.Standard m q := ⟨by omega, hleast, hq, hbits.symm⟩
      exact .inl ⟨_, dif_pos hstandard, rfl⟩
    · have hno : ¬Finite64.Standard m q := fun h => hq h.2.2.1
      exact .inr ⟨dif_neg hno, hbeyond 52 (hbits.resolve_left (by omega)) (by omega)⟩

section Order

variable (hden : 0 < den) (hden' : 0 < den') (h : num * den' ≤ num' * den)

include hden hden' h in
private theorem ratio_le : (num / den : ℚ) ≤ num' / den' := by
  have hpos : (0 : ℚ) < den := by exact_mod_cast hden
  have hpos' : (0 : ℚ) < den' := by exact_mod_cast hden'
  rw [div_le_div_iff₀ hpos hpos']
  exact_mod_cast h

variable (hnum : num ≠ 0)

include hden' h hnum in
private theorem num_ne_zero_of_le : num' ≠ 0 := by
  rintro rfl
  rw [Nat.zero_mul, Nat.le_zero, Nat.mul_eq_zero] at h
  omega

include hden hden' h hnum

private theorem exponentOf_mono : exponentOf num den ≤ exponentOf num' den' := by
  obtain ⟨-, -, habove⟩ := exponentOf_spec hnum hden
  obtain ⟨hleast, hbelow, -⟩ := exponentOf_spec (num_ne_zero_of_le hden' h hnum) hden'
  rcases habove with hleast' | habove
  · omega
  · have hpow : (2 : ℚ) ^ (exponentOf num den + 52) < 2 ^ (exponentOf num' den' + 53) :=
      (habove.trans (ratio_le hden hden' h)).trans_lt hbelow
    have hlt := (zpow_lt_zpow_iff_right₀ one_lt_two).1 hpow
    omega

theorem roundedOf_mono : roundedOf num den ≤ roundedOf num' den' := by
  have hnum' := num_ne_zero_of_le hden' h hnum
  obtain ⟨hleast, -, -⟩ := exponentOf_spec hnum hden
  obtain ⟨hmost, -⟩ := significandOf_spec hnum hden
  obtain ⟨-, hbits'⟩ := significandOf_spec hnum' hden'
  rcases (exponentOf_mono hden hden' h hnum).eq_or_lt with hsame | hless
  · unfold roundedOf significandOf
    rw [hsame]
    refine Nat.mul_le_mul_right _ (roundQuotient_mono (scaleDown_pos num hden _)
      (scaleDown_pos num' hden' _) ?_)
    simp only [scaleDown]
    generalize exponentOf num' den' = q
    calc num * twoTo (-q).toNat * (den' * twoTo q.toNat)
        = num * den' * (twoTo (-q).toNat * twoTo q.toNat) := by ring
      _ ≤ num' * den * (twoTo (-q).toNat * twoTo q.toNat) := Nat.mul_le_mul_right _ h
      _ = num' * twoTo (-q).toNat * (den * twoTo q.toNat) := by ring
  · -- a larger exponent is not the least one, so its significand has all of its bits
    have hfull : twoTo 52 ≤ significandOf num' den' := hbits'.resolve_left (by omega)
    calc significandOf num den * twoTo (exponentOf num den + 1074).toNat
        ≤ twoTo 53 * twoTo (exponentOf num den + 1074).toNat := Nat.mul_le_mul_right _ hmost
      _ = twoTo (53 + (exponentOf num den + 1074).toNat) := (twoTo_add _ _).symm
      _ ≤ twoTo (52 + (exponentOf num' den' + 1074).toNat) := twoTo_mono (by omega)
      _ = twoTo 52 * twoTo (exponentOf num' den' + 1074).toNat := twoTo_add _ _
      _ ≤ significandOf num' den' * twoTo (exponentOf num' den' + 1074).toNat :=
        Nat.mul_le_mul_right _ hfull

end Order

theorem roundRatio_mono {negative negative' : Bool} {y : Finite64} (hden : 0 < den)
    (hden' : 0 < den') (h : num * den' ≤ num' * den)
    (hfinite : roundRatio negative' num' den' = finite y) :
    ∃ x, roundRatio negative num den = finite x ∧ x.magnitude ≤ y.magnitude := by
  by_cases hnum : num = 0
  · refine ⟨Finite64.zero negative, if_pos hnum, ?_⟩
    rw [Finite64.magnitude, Finite64.zero, Nat.zero_mul]
    exact Nat.zero_le _
  · have hmono := roundedOf_mono hden hden' h hnum
    have hy : y.magnitude = roundedOf num' den' := by
      rcases roundRatio_cases negative' (num_ne_zero_of_le hden' h hnum) hden' with
        ⟨x, hx, hmagnitude⟩ | ⟨hinfinite, -⟩
      · rw [hfinite] at hx
        cases hx
        exact hmagnitude
      · rw [hfinite] at hinfinite
        cases hinfinite
    rcases roundRatio_cases negative hnum hden with ⟨x, hx, hmagnitude⟩ | ⟨-, hlimit⟩
    · exact ⟨x, hx, by omega⟩
    · have hlt := y.magnitude_lt
      omega

end Ratio

theorem ofInt_mono {m n : Int} {y : Finite64} (h : m.natAbs ≤ n.natAbs)
    (hfinite : ofInt n = finite y) : ∃ x, ofInt m = finite x ∧ x.magnitude ≤ y.magnitude :=
  roundRatio_mono Nat.one_pos Nat.one_pos (by omega) hfinite

theorem mul_mono {x y x' y' z' : Finite64} (hx : x.magnitude ≤ x'.magnitude)
    (hy : y.magnitude ≤ y'.magnitude) (hfinite : (finite x').mul (finite y') = finite z') :
    ∃ z, (finite x).mul (finite y) = finite z ∧ z.magnitude ≤ z'.magnitude := by
  have hden : 0 < Finite64.unitsPerOne * Finite64.unitsPerOne :=
    Nat.mul_pos Finite64.unitsPerOne_pos Finite64.unitsPerOne_pos
  have hproduct := Nat.mul_le_mul hx hy
  unfold mul at hfinite ⊢
  generalize Finite64.unitsPerOne * Finite64.unitsPerOne = one at *
  exact roundRatio_mono hden hden (Nat.mul_le_mul_right _ hproduct) hfinite

end Binary64

end SchemaMocks
