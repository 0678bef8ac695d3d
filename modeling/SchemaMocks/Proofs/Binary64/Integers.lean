import SchemaMocks.Binary64.Numeral
import SchemaMocks.Proofs.Binary64.Rounding
import SchemaMocks.Proofs.Json.Numbers

set_option autoImplicit false
set_option relaxedAutoImplicit false

/-!
Integers among binary numbers. The integers next to a number bound those below and above it. Of the
bits of an integer the first 53 stay and the others are rounded away, so that an integer is rounded
to itself where those others are all zero. The numeral of an integer of 53 bits is read as it.
-/

namespace SchemaMocks

namespace Finite64

variable {x : Finite64} {n : Int}

theorem le_floor_iff : n ≤ x.floor ↔ n * unitsPerOne ≤ x.units := by
  have hone : (0 : Int) < unitsPerOne := by exact_mod_cast unitsPerOne_pos
  rw [floor, Int.fdiv_eq_ediv_of_nonneg _ hone.le, Int.le_ediv_iff_mul_le hone]

theorem ceil_le_iff : x.ceil ≤ n ↔ x.units ≤ n * unitsPerOne := by
  have hone : (0 : Int) < unitsPerOne := by exact_mod_cast unitsPerOne_pos
  rw [ceil, neg_le, Int.fdiv_eq_ediv_of_nonneg _ hone.le,
    Int.le_ediv_iff_mul_le hone, Int.neg_mul, Int.neg_le_neg_iff]

theorem floor_of_units (h : x.units = n * unitsPerOne) : x.floor = n := by
  have hone : (unitsPerOne : Int) ≠ 0 := by exact_mod_cast unitsPerOne_pos.ne'
  rw [floor, h, Int.mul_fdiv_cancel n hone]

theorem ceil_of_units (h : x.units = n * unitsPerOne) : x.ceil = n := by
  have hone : (unitsPerOne : Int) ≠ 0 := by exact_mod_cast unitsPerOne_pos.ne'
  rw [ceil, h, ← Int.neg_mul, Int.mul_fdiv_cancel (-n) hone, Int.neg_neg]

end Finite64

namespace Binary64

private theorem negative_of_roundRatio {negative : Bool} {num den : Nat} {x : Finite64}
    (h : roundRatio negative num den = finite x) : x.negative = negative := by
  unfold roundRatio at h
  dsimp only at h
  split_ifs at h with hzero hcarry hstandard hstandard
  · cases h
    rfl
  · cases h
    rfl
  · cases h
    rfl

private theorem roundedOf_whole {n : Nat} (hn : n ≠ 0) (h : n ≤ 9007199254740992) :
    roundedOf n 1 = n * Finite64.unitsPerOne := by
  rcases h.eq_or_lt with rfl | hlt
  · decide +kernel
  · obtain ⟨hleast, -, habove⟩ := exponentOf_spec hn Nat.one_pos
    -- with less than 54 bits before the point the exponent is not positive
    have hq : exponentOf n 1 ≤ 0 := by
      rcases habove with hleast | habove
      · omega
      · rw [Nat.cast_one, div_one] at habove
        have hbits : (n : ℚ) < 2 ^ (53 : Int) := by
          rw [show (2 : ℚ) ^ (53 : Int) = 9007199254740992 by norm_num]
          exact_mod_cast hlt
        have hpow := (zpow_lt_zpow_iff_right₀ one_lt_two).1 (habove.trans_lt hbits)
        omega
    have hwhole : significandOf n 1 = n * twoTo (-exponentOf n 1).toNat := by
      unfold significandOf scaleDown
      rw [show (exponentOf n 1).toNat = 0 by omega]
      simp [roundQuotient, twoTo, Nat.mod_one]
    unfold roundedOf
    rw [hwhole, Nat.mul_assoc, ← twoTo_add, Finite64.unitsPerOne]
    congr 2
    omega

private theorem roundRatio_whole (negative : Bool) {n : Nat} (h : n ≤ 9007199254740992) :
    ∃ x, roundRatio negative n 1 = finite x ∧ x.negative = negative ∧
      x.magnitude = n * Finite64.unitsPerOne := by
  by_cases hn : n = 0
  · subst hn
    exact ⟨Finite64.zero negative, if_pos rfl, rfl, by simp [Finite64.magnitude, Finite64.zero]⟩
  · have hrounded := roundedOf_whole hn h
    rcases roundRatio_cases negative hn Nat.one_pos with ⟨x, hx, hmagnitude⟩ | ⟨-, hlimit⟩
    · exact ⟨x, hx, negative_of_roundRatio hx, hmagnitude.trans hrounded⟩
    · have hbound : 9007199254740992 * Finite64.unitsPerOne < Finite64.limit := by decide +kernel
      have hle := Nat.mul_le_mul_right Finite64.unitsPerOne h
      omega

theorem roundQuotient_mul_eq_iff {n den : Nat} (hden : 0 < den) :
    roundQuotient n den * den = n ↔ den ∣ n := by
  constructor
  · intro h
    exact ⟨roundQuotient n den, by rw [Nat.mul_comm, h]⟩
  · rintro ⟨c, rfl⟩
    simp [roundQuotient, Nat.mul_div_cancel_left c hden, hden, Nat.mul_comm]

/-- How many bits of an integer come after its first 53. -/
def bitsBeyond (n : Nat) : Nat :=
  n.log2 - 52

def nearestWhole (n : Nat) : Nat :=
  roundQuotient n (twoTo (bitsBeyond n)) * twoTo (bitsBeyond n)

theorem nearestWhole_eq_iff (n : Nat) : nearestWhole n = n ↔ twoTo (bitsBeyond n) ∣ n :=
  roundQuotient_mul_eq_iff (twoTo_pos (bitsBeyond n))

private theorem exponentOf_whole {n : Nat} (hn : n ≠ 0) : exponentOf n 1 = (n.log2 : Int) - 52 := by
  have hlength : ((n.log2 : Int) - Nat.log2 1) = n.log2 := by
    have hone : Nat.log2 1 = 0 := by decide
    omega
  have hfull : (scaleDown n 1 n.log2).2 ≤ (scaleDown n 1 n.log2).1 := by
    have hleast : twoTo n.log2 ≤ n := Nat.log2_self_le hn
    have hup : (-(n.log2 : Int)).toNat = 0 := by omega
    show 1 * twoTo (n.log2 : Int).toNat ≤ n * twoTo (-(n.log2 : Int)).toNat
    rw [hup, twoTo_zero, Int.toNat_natCast]
    omega
  rw [exponentOf_eq, hlength, placeOf, if_pos hfull]
  omega

private theorem roundedOf_integer {n : Nat} (hn : n ≠ 0) :
    roundedOf n 1 = nearestWhole n * Finite64.unitsPerOne := by
  by_cases hshort : n.log2 < 52
  · have hbound : n < 2 ^ 52 := (Nat.log2_lt hn).1 hshort
    have hbeyond : bitsBeyond n = 0 := by
      unfold bitsBeyond
      omega
    have hkept : nearestWhole n = n := by
      apply (nearestWhole_eq_iff n).2
      rw [hbeyond]
      exact Nat.one_dvd n
    rw [hkept]
    apply roundedOf_whole hn
    omega
  · have hexponent := exponentOf_whole hn
    have hup : (exponentOf n 1).toNat = bitsBeyond n := by
      unfold bitsBeyond
      omega
    have hdown : (-exponentOf n 1).toNat = 0 := by omega
    have hplace : (exponentOf n 1 + 1074).toNat = bitsBeyond n + 1074 := by omega
    rw [roundedOf, significandOf, scaleDown, hup, hdown, hplace, twoTo_zero, Nat.mul_one,
      Nat.one_mul, twoTo_add, ← Nat.mul_assoc]
    rfl

theorem roundRatio_integer (negative : Bool) {n : Nat} (h : n ≤ 18446744073709551616) :
    ∃ x, roundRatio negative n 1 = finite x ∧ x.negative = negative ∧
      x.magnitude = nearestWhole n * Finite64.unitsPerOne := by
  by_cases hn : n = 0
  · subst hn
    refine ⟨Finite64.zero negative, if_pos rfl, rfl, ?_⟩
    have hzero : nearestWhole 0 = 0 := by decide
    rw [hzero, Nat.zero_mul]
    exact Nat.zero_mul _
  · have hrounded := roundedOf_integer hn
    rcases roundRatio_cases negative hn Nat.one_pos with ⟨x, hx, hmagnitude⟩ | ⟨-, hlimit⟩
    · exact ⟨x, hx, negative_of_roundRatio hx, hmagnitude.trans hrounded⟩
    · -- the rounded value is not above that of the largest integer, which is far below the limit
      have hmost : roundedOf n 1 ≤ roundedOf 18446744073709551616 1 :=
        roundedOf_mono Nat.one_pos Nat.one_pos (Nat.mul_le_mul_right 1 h) hn
      have hbelow : roundedOf 18446744073709551616 1 < Finite64.limit := by decide +kernel
      omega

theorem roundRatio_word {n : Nat} (hlow : 9223372036854775808 ≤ n) (hhigh : n < 18446744073709551616) :
    ∃ x, roundRatio false n 1 = finite x ∧ x.negative = false ∧
      x.magnitude = roundQuotient n 2048 * 2048 * Finite64.unitsPerOne := by
  have hlength : n.log2 = 63 := (Nat.log2_eq_iff (by omega)).2 ⟨hlow, hhigh⟩
  have hbeyond : twoTo (bitsBeyond n) = 2048 := by
    rw [bitsBeyond, hlength]
    rfl
  have hnearest := roundRatio_integer false hhigh.le
  rwa [nearestWhole, hbeyond] at hnearest

private theorem nearestDecimal_whole (negative : Bool) {n : Nat} (h : n ≤ 9007199254740992) :
    ∃ x, nearestDecimal negative n 0 = finite x ∧ x.negative = negative ∧
      x.magnitude = n * Finite64.unitsPerOne := by
  unfold nearestDecimal
  by_cases hn : n = 0
  · subst hn
    exact ⟨Finite64.zero negative, if_pos rfl, rfl, by simp [Finite64.magnitude, Finite64.zero]⟩
  · have hlength : (toString n).length ≤ 16 := by
      rw [← String.length_toList, Json.toList_toString]
      exact (Nat.length_toDigits_le_iff (by decide) (by decide)).2 (by omega)
    have hdecimal : ofDecimal negative n 0 = roundRatio negative n 1 := by
      rw [ofDecimal, Int.neg_zero, Int.toNat_zero, tenTo_zero, Nat.mul_one]
    simp only [hn, if_false, Int.add_zero]
    rw [if_neg (by omega), if_neg (by omega), hdecimal]
    exact roundRatio_whole negative h

section Numeral

variable {digits : List Char}

private theorem toLower_of_isDigit {c : Char} (h : c.isDigit = true) : c.toLower = c := by
  refine dif_neg fun hupper => ?_
  rw [Char.isDigit_iff_toNat] at h
  have hleast : 'A'.toNat ≤ c.toNat := hupper.1
  have hnine : '9'.toNat < 'A'.toNat := by decide
  omega

theorem word?_of_digits (h : Json.IsDigits digits) (negative : Bool) :
    word? negative digits = none := by
  have hlower : digits.map Char.toLower = digits :=
    (List.map_congr_left fun c hc => toLower_of_isDigit (h.2 c hc)).trans (List.map_id digits)
  have hother : ∀ word : String, word.toList.all Char.isDigit = false →
      (String.ofList digits == word) = false := by
    rintro word hword
    rw [beq_eq_false_iff_ne]
    rintro rfl
    rw [String.toList_ofList, List.all_eq_true.2 h.2] at hword
    cases hword
  unfold word?
  simp only [hlower, hother "inf" rfl, hother "infinity" rfl, hother "nan" rfl, Bool.or_self,
    Bool.false_eq_true, if_false]

theorem unsigned?_of_digits (h : Json.IsDigits digits) (negative : Bool) :
    unsigned? negative digits = some (nearestDecimal negative (Text.digitsValue 0 digits) 0) := by
  have hspan : (digits ++ []).span Char.isDigit = (digits, []) := Json.span_isDigit h.2 nofun
  rw [List.append_nil] at hspan
  have hne : digits.isEmpty = false := by simpa using h.1
  unfold unsigned? spanDigits
  simp [hspan, hne, exponent?, -List.span_eq_takeWhile_dropWhile]

private theorem ofNumeral?_signed (h : Json.IsDigits digits) (negative : Bool) :
    ofNumeral? ((if negative then ['-'] else []) ++ digits) =
      some (nearestDecimal negative (Text.digitsValue 0 digits) 0) := by
  have hbody : (word? negative digits).orElse (fun _ => unsigned? negative digits) =
      some (nearestDecimal negative (Text.digitsValue 0 digits) 0) := by
    rw [word?_of_digits h, unsigned?_of_digits h]
    rfl
  cases negative with
  | true => exact hbody
  | false =>
    cases digits with
    | nil => exact absurd rfl h.1
    | cons first rest =>
      have hfirst : first.isDigit = true := h.2 first List.mem_cons_self
      have hplus : first ≠ '+' := by
        rintro rfl
        cases hfirst
      have hminus : first ≠ '-' := by
        rintro rfl
        cases hfirst
      simpa [ofNumeral?, hplus, hminus] using hbody

theorem ofNumeral?_int {n : Int} (h : n.natAbs ≤ 9007199254740992) :
    ∃ x, ofNumeral? (toString n).toList = some (finite x) ∧
      x.units = n * Finite64.unitsPerOne := by
  cases n with
  | ofNat m =>
    obtain ⟨x, hx, hnegative, hmagnitude⟩ := nearestDecimal_whole false (n := m) h
    have hread := ofNumeral?_signed (Json.isDigits_toDigits m) false
    rw [Json.digitsValue_toDigits, hx] at hread
    refine ⟨x, ?_, ?_⟩
    · rw [show toString (Int.ofNat m) = toString m from rfl, Json.toList_toString]
      exact hread
    · rw [Finite64.units, hnegative, hmagnitude, if_neg Bool.false_ne_true, Int.natCast_mul,
        Int.ofNat_eq_natCast]
  | negSucc m =>
    obtain ⟨x, hx, hnegative, hmagnitude⟩ := nearestDecimal_whole true (n := m + 1) h
    have hread := ofNumeral?_signed (Json.isDigits_toDigits (m + 1)) true
    rw [Json.digitsValue_toDigits, hx] at hread
    refine ⟨x, ?_, ?_⟩
    · rw [show toString (Int.negSucc m) = "-" ++ toString (m + 1) from rfl, String.toList_append,
        Json.toList_toString]
      exact hread
    · rw [Finite64.units, hnegative, hmagnitude, if_pos rfl, Int.negSucc_eq]
      push_cast
      ring

end Numeral

end Binary64

end SchemaMocks
