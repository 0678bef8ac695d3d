import SchemaMocks.Proofs.Binary64.Integers

set_option autoImplicit false
set_option relaxedAutoImplicit false

/-!
Ratios and decimals without a finite number. A ratio is rounded to infinity where it reaches the
middle between the largest number and the power of two that comes next; so is a decimal, although
the number of its digits and its power alone may settle the matter.
-/

namespace SchemaMocks

def Finite64.overflow : Nat :=
  18014398509481983 * twoTo 970

namespace Binary64

section Ratio

variable {num den : Nat}

private theorem isFinite_of_roundedOf_lt (negative : Bool) (hnum : num ≠ 0) (hden : 0 < den)
    (h : roundedOf num den < Finite64.limit) : (roundRatio negative num den).isFinite = true := by
  rcases roundRatio_cases negative hnum hden with ⟨x, hx, -⟩ | ⟨-, hlimit⟩
  · rw [hx]
    rfl
  · omega

private theorem significandOf_lt (hden : 0 < den) (hlast : exponentOf num den = 971)
    (h : num < Finite64.overflow * den) : significandOf num den < 9007199254740992 := by
  have hscale : scaleDown num den 971 = (num, den * twoTo 971) := by
    rw [scaleDown, show (-971 : Int).toNat = 0 from rfl, show (971 : Int).toNat = 971 from rfl,
      twoTo_zero, Nat.mul_one]
  have hpos : 0 < den * twoTo 971 := Nat.mul_pos hden (twoTo_pos _)
  obtain ⟨hnear, -⟩ := roundQuotient_near num hpos
  have hnum : 2 * num < 18014398509481983 * (den * twoTo 971) := by
    rw [Finite64.overflow] at h
    calc 2 * num < 2 * (18014398509481983 * twoTo 970 * den) := by omega
      _ = 18014398509481983 * (den * twoTo 971) := by rw [twoTo_succ 970]; ring
  rw [significandOf, hlast, hscale]
  generalize roundQuotient num (den * twoTo 971) = m at hnear
  by_contra hfull
  have hleast : 9007199254740992 * (den * twoTo 971) ≤ m * (den * twoTo 971) :=
    Nat.mul_le_mul_right _ (Nat.not_lt.1 hfull)
  omega

private theorem roundedOf_lt (hnum : num ≠ 0) (hden : 0 < den) (h : num < Finite64.overflow * den) :
    roundedOf num den < Finite64.limit := by
  obtain ⟨hleast, -, hhigh⟩ := exponentOf_spec hnum hden
  obtain ⟨hmost, -⟩ := significandOf_spec hnum hden
  have hexponent : exponentOf num den ≤ 971 := by
    rcases hhigh with hleast' | hhigh
    · omega
    · have hratio : (num / den : ℚ) < Finite64.overflow := by
        rw [div_lt_iff₀ (by exact_mod_cast hden)]
        exact_mod_cast h
      have hpower : (Finite64.overflow : ℚ) ≤ 2 ^ (1024 : Int) := by
        have hle : Finite64.overflow ≤ 2 ^ 1024 := by decide +kernel
        exact_mod_cast hle
      have hless := (hhigh.trans_lt hratio).trans_le hpower
      rw [zpow_lt_zpow_iff_right₀ (by norm_num)] at hless
      omega
  unfold roundedOf Finite64.limit
  rcases hexponent.lt_or_eq with hbelow | hlast
  · calc significandOf num den * twoTo (exponentOf num den + 1074).toNat
        ≤ twoTo 53 * twoTo (exponentOf num den + 1074).toNat := Nat.mul_le_mul_right _ hmost
      _ = twoTo (53 + (exponentOf num den + 1074).toNat) := (twoTo_add _ _).symm
      _ ≤ twoTo 2097 := twoTo_mono (by omega)
      _ < twoTo 2098 := by decide +kernel
  · have hless := significandOf_lt hden hlast h
    rw [hlast]
    calc significandOf num den * twoTo 2045
        < twoTo 53 * twoTo 2045 := Nat.mul_lt_mul_of_pos_right hless (twoTo_pos _)
      _ = twoTo 2098 := (twoTo_add 53 2045).symm

private theorem roundRatio_isFinite_iff (negative : Bool) (num : Nat) (hden : 0 < den) :
    (roundRatio negative num den).isFinite = false ↔ Finite64.overflow * den ≤ num := by
  constructor
  · intro hinfinite
    by_contra hless
    by_cases hnum : num = 0
    · rw [roundRatio, if_pos hnum] at hinfinite
      cases hinfinite
    · have hfinite := isFinite_of_roundedOf_lt negative hnum hden
        (roundedOf_lt hnum hden (Nat.not_le.1 hless))
      rw [hinfinite] at hfinite
      cases hfinite
  · intro hreached
    rw [← Bool.not_eq_true, isFinite_iff]
    rintro ⟨y, hy⟩
    have hmiddle : roundRatio false Finite64.overflow 1 = infinite false := by decide +kernel
    obtain ⟨x, hx, -⟩ : ∃ x, roundRatio false Finite64.overflow 1 = finite x ∧
        x.magnitude ≤ y.magnitude :=
      roundRatio_mono Nat.one_pos hden (by rwa [Nat.mul_one]) hy
    rw [hmiddle] at hx
    cases hx

end Ratio

section Decimals

private theorem ofDecimal_isFinite_iff (negative : Bool) (digits : Nat) (power : Int) :
    (ofDecimal negative digits power).isFinite = false ↔
      (Finite64.overflow : ℚ) ≤ Decimal.value ⟨digits, power⟩ := by
  rw [ofDecimal, roundRatio_isFinite_iff negative _ (tenTo_pos _), Decimal.le_value_iff]

variable {digits : Nat} {power : Int}

private theorem tenTo_le_digits (hdigits : digits ≠ 0) :
    tenTo ((toString digits).length - 1) ≤ digits := by
  rw [← String.length_toList, Json.toList_toString]
  cases hchars : Nat.toDigits 10 digits with
  | nil => exact absurd hchars Nat.toDigits_ne_nil
  | cons first part => exact Json.tenTo_le_of_toDigits hdigits hchars

private theorem digits_lt_tenTo (digits : Nat) : digits < tenTo (toString digits).length := by
  have hless := Json.digitsValue_lt (Json.isDigits_toDigits digits).2 0
  rwa [Json.digitsValue_toDigits, Nat.zero_add, Nat.one_mul, ← Json.toList_toString,
    String.length_toList] at hless

private theorem overflow_le_value (hdigits : digits ≠ 0)
    (h : 400 < ((toString digits).length : Int) + power) :
    (Finite64.overflow : ℚ) ≤ Decimal.value ⟨digits, power⟩ := by
  have hlength : 0 < (toString digits).length := by
    rw [← String.length_toList, Json.toList_toString]
    exact List.length_pos_of_ne_nil Nat.toDigits_ne_nil
  have hleast : (tenTo ((toString digits).length - 1) : ℚ) ≤ digits := by
    exact_mod_cast tenTo_le_digits hdigits
  have hlimit : Finite64.overflow ≤ tenTo 400 := by decide +kernel
  calc (Finite64.overflow : ℚ) ≤ tenTo 400 := by exact_mod_cast hlimit
    _ = 10 ^ ((400 : Nat) : Int) := cast_tenTo 400
    _ ≤ 10 ^ ((((toString digits).length - 1 : Nat) : Int) + power) :=
      zpow_le_zpow_right₀ (by norm_num) (by omega)
    _ = tenTo ((toString digits).length - 1) * 10 ^ power := by
      rw [zpow_add₀ (by norm_num), cast_tenTo]
    _ ≤ digits * 10 ^ power := mul_le_mul_of_nonneg_right hleast (by positivity)

private theorem value_lt_overflow (h : ((toString digits).length : Int) + power < -400) :
    Decimal.value ⟨digits, power⟩ < Finite64.overflow := by
  have hmost : (digits : ℚ) < tenTo (toString digits).length := by
    exact_mod_cast digits_lt_tenTo digits
  have hone : 1 ≤ Finite64.overflow := by decide +kernel
  calc Decimal.value ⟨digits, power⟩ = digits * 10 ^ power := rfl
    _ < tenTo (toString digits).length * 10 ^ power :=
      mul_lt_mul_of_pos_right hmost (by positivity)
    _ = 10 ^ (((toString digits).length : Int) + power) := by
      rw [zpow_add₀ (by norm_num), cast_tenTo]
    _ ≤ 1 := zpow_le_one_of_nonpos₀ (by norm_num) (by omega)
    _ ≤ Finite64.overflow := by exact_mod_cast hone

theorem nearestDecimal_isFinite_iff (negative : Bool) (digits : Nat) (power : Int) :
    (nearestDecimal negative digits power).isFinite = false ↔
      (Finite64.overflow : ℚ) ≤ Decimal.value ⟨digits, power⟩ := by
  unfold nearestDecimal
  dsimp only
  split
  · rename_i hzero
    subst hzero
    have hpos : 0 < Finite64.overflow := by decide +kernel
    have hvalue : Decimal.value ⟨0, power⟩ = 0 := by
      rw [Decimal.value, Nat.cast_zero, zero_mul]
    rw [hvalue]
    exact iff_of_false Bool.true_eq_false.mp (not_le.2 (by exact_mod_cast hpos))
  · rename_i hdigits
    split
    · rename_i hlarge
      exact iff_of_true rfl (overflow_le_value hdigits hlarge)
    · split
      · rename_i hsmall
        exact iff_of_false Bool.true_eq_false.mp (not_le.2 (value_lt_overflow hsmall))
      · exact ofDecimal_isFinite_iff negative digits power

end Decimals

end Binary64

end SchemaMocks
