import SchemaMocks.Json.Reader
import SchemaMocks.Proofs.Binary64.Decimals
import SchemaMocks.Proofs.Binary64.Rounding
import SchemaMocks.Proofs.Json.Text

set_option autoImplicit false
set_option relaxedAutoImplicit false

/-!
Reading the numerals of printed numbers. The digits of a numeral make a significand of 64 bits and a
power of ten, whose value is not above that of the numeral. Scaling it stays finite as long as it is
not above the largest number, so that every printed number is read: an integer as itself, any other
number as one of its kind.
-/

namespace SchemaMocks

def Binary64.isFinite : Binary64 → Bool
  | finite _ => true
  | _ => false

theorem Binary64.isFinite_iff {x : Binary64} : x.isFinite = true ↔ ∃ value, x = finite value := by
  cases x <;> simp [isFinite]

namespace Json

open Binary64
open Text (digitValue digitsValue)

section Scaling

private theorem powerOfTen_eq (n : Nat) : powerOfTen n = roundRatio false (tenTo n) 1 := by
  rw [powerOfTen, ofDecimal, Int.toNat_natCast, Int.toNat_neg_natCast, tenTo_zero, Nat.one_mul]

private theorem powerOfTen_spec {n : Nat} (hn : n ≤ 308) :
    ∃ b, powerOfTen n = .finite b ∧ Finite64.unitsPerOne ≤ b.magnitude := by
  have hlast : powerOfTen 308 ≠ .infinite false := by decide +kernel
  have hone : roundRatio false 1 1 = .finite ⟨false, 4503599627370496, -52, by decide⟩ := by
    decide +kernel
  have hunits : Finite64.magnitude ⟨false, 4503599627370496, -52, by decide⟩ =
      Finite64.unitsPerOne := by
    decide +kernel
  rw [powerOfTen_eq] at hlast ⊢
  obtain ⟨top, htop⟩ : ∃ top, roundRatio false (tenTo 308) 1 = .finite top := by
    rcases roundRatio_cases false (tenTo_pos 308).ne' Nat.one_pos with ⟨top, htop, -⟩ | ⟨htop, -⟩
    · exact ⟨top, htop⟩
    · exact absurd htop hlast
  obtain ⟨b, hb, -⟩ : ∃ b, roundRatio false (tenTo n) 1 = .finite b ∧ b.magnitude ≤ top.magnitude :=
    roundRatio_mono Nat.one_pos Nat.one_pos (Nat.mul_le_mul_right 1 (tenTo_mono hn)) htop
  obtain ⟨x, hx, hle⟩ : ∃ x, roundRatio false 1 1 = .finite x ∧ x.magnitude ≤ b.magnitude :=
    roundRatio_mono Nat.one_pos Nat.one_pos (Nat.mul_le_mul_right 1 (tenTo_pos n)) hb
  rw [hone] at hx
  cases hx
  exact ⟨b, hb, hunits ▸ hle⟩

private theorem scaleByTen_below {steps k : Nat} {x : Binary64} {power : Int} (hx : IsWithin k x)
    (hk : k + steps ≤ 1000) (hpower : power < 0) :
    ∃ y, scaleByTen steps x power = some y := by
  induction steps generalizing k x power with
  | zero => exact ⟨_, rfl⟩
  | succ steps ih =>
    obtain ⟨a, rfl⟩ := hx.eq_finite
    rw [scaleByTen]
    split
    · rename_i hnear
      obtain ⟨b, hb, hone⟩ := powerOfTen_spec (n := (-power).toNat) (by omega)
      obtain ⟨y, hy⟩ := (hx.div hone (by omega)).eq_finite
      rw [if_neg (by omega), hb, hy]
      exact ⟨y, rfl⟩
    · split
      · exact ⟨a, rfl⟩
      · obtain ⟨b, hb, hone⟩ := powerOfTen_spec (n := 308) (Nat.le_refl _)
        rw [if_neg (by omega), hb]
        exact ih (hx.div hone (by omega)) (by omega) (by omega)

private theorem ofInt_finite {m : Nat} (hm : m < 18446744073709551616) :
    IsWithin 65 (ofInt m) :=
  isWithin_ofInt (k := 64) (Nat.le_of_lt hm) (by decide)

private theorem mul_powerOfTen_mono {m m' n n' : Nat} (hm : m ≤ m')
    (hbits : m' < 18446744073709551616)
    (hn : n ≤ n') (hmost : n' ≤ 308) (h : ((ofInt m').mul (powerOfTen n')).isFinite = true) :
    ((ofInt m).mul (powerOfTen n)).isFinite = true := by
  obtain ⟨z, hz⟩ := isFinite_iff.1 h
  obtain ⟨b, hb, -⟩ := powerOfTen_spec hmost
  obtain ⟨x, hx⟩ := (ofInt_finite hbits).eq_finite
  rw [hx, hb] at hz
  obtain ⟨a, ha, hax⟩ := ofInt_mono (m := m) (by omega) hx
  obtain ⟨c, hc, hcb⟩ : ∃ c, powerOfTen n = .finite c ∧ c.magnitude ≤ b.magnitude := by
    rw [powerOfTen_eq] at hb ⊢
    exact roundRatio_mono Nat.one_pos Nat.one_pos (Nat.mul_le_mul_right 1 (tenTo_mono hn)) hb
  obtain ⟨y, hy, -⟩ := mul_mono hax hcb hz
  rw [ha, hc]
  exact isFinite_iff.2 ⟨y, hy⟩

private theorem mul_powerOfTen_largest :
    ((ofInt (18446744073709551615 : Nat)).mul (powerOfTen 288)).isFinite = true ∧
      ∀ n < 309, 288 < n →
        Finite64.lastMiddle / tenTo n < 18446744073709551616 ∧
          ((ofInt (Finite64.lastMiddle / tenTo n : Nat)).mul (powerOfTen n)).isFinite = true := by
  decide +kernel

private theorem mul_powerOfTen_isFinite {m n : Nat} (hm : m < 18446744073709551616) (hn : n ≤ 308)
    (h : m * tenTo n ≤ Finite64.lastMiddle) :
    ((ofInt m).mul (powerOfTen n)).isFinite = true := by
  obtain ⟨hsmall, hlarge⟩ := mul_powerOfTen_largest
  by_cases hpower : n ≤ 288
  · exact mul_powerOfTen_mono (by omega) (by decide) hpower (by decide) hsmall
  · obtain ⟨hbits, hfinite⟩ := hlarge n (by omega) (by omega)
    have hquotient : m ≤ Finite64.lastMiddle / tenTo n :=
      (Nat.le_div_iff_mul_le (tenTo_pos n)).2 h
    exact mul_powerOfTen_mono hquotient hbits (Nat.le_refl n) hn hfinite

private theorem scaleByTen_above {m n : Nat} (hm : m < 18446744073709551616)
    (h : m * tenTo n ≤ Finite64.lastMiddle) : ∃ y, scaleByTen 4 (ofInt m) (n : Int) = some y := by
  obtain ⟨x, hx⟩ := (ofInt_finite hm).eq_finite
  rw [hx, scaleByTen]
  by_cases hn : n ≤ 308
  · obtain ⟨y, hy⟩ := isFinite_iff.1 (mul_powerOfTen_isFinite hm hn h)
    rw [hx] at hy
    have hpower : ((n : Int)).natAbs ≤ 308 := by omega
    have hsign : (0 : Int) ≤ n := by omega
    rw [if_pos hpower, if_pos hsign, Int.toNat_natCast, hy]
    exact ⟨y, rfl⟩
  · -- a power beyond the largest number leaves no significand but nought
    have hlimit : Finite64.lastMiddle < tenTo 309 := by decide +kernel
    have hpower : ¬((n : Int)).natAbs ≤ 308 := by omega
    obtain rfl : m = 0 := by
      by_contra hne
      have hone : tenTo n ≤ m * tenTo n := Nat.le_mul_of_pos_left _ (Nat.pos_of_ne_zero hne)
      have hlarge : tenTo 309 ≤ tenTo n := tenTo_mono (by omega)
      omega
    rw [if_neg hpower]
    cases hx
    exact ⟨_, rfl⟩

private theorem scaled?_of_isModerate {m : Nat} {power : Int} (hm : m < 18446744073709551616)
    (h : power ≤ 0 ∨ Decimal.IsModerate ⟨m, power⟩) (negative : Bool) :
    ∃ y, scaled? negative m power = some (.decimal y) := by
  have hscaled : ∃ x, scaleByTen 4 (ofInt m) power = some x := by
    by_cases hbelow : power < 0
    · exact scaleByTen_below (ofInt_finite hm) (by decide) hbelow
    · obtain ⟨n, rfl⟩ := Int.eq_ofNat_of_zero_le (Int.not_lt.1 hbelow)
      rcases h with hnone | hvalue | hlast
      · obtain rfl : n = 0 := by omega
        have hlimit : 18446744073709551616 ≤ Finite64.lastMiddle := by decide +kernel
        refine scaleByTen_above hm ?_
        rw [tenTo_zero, Nat.mul_one]
        exact (Nat.le_of_lt hm).trans hlimit
      · refine scaleByTen_above hm ?_
        rw [Decimal.value, zpow_natCast] at hvalue
        exact_mod_cast hvalue
      · cases hlast
        have hlargest : (scaleByTen 4 (ofInt (17976931348623157 : Nat)) (292 : Nat)).isSome := by
          decide +kernel
        exact Option.isSome_iff_exists.1 hlargest
  obtain ⟨x, hx⟩ := hscaled
  unfold scaled?
  rw [hx]
  exact ⟨_, rfl⟩

end Scaling

section Digits

theorem digitsValue_cons (n : Nat) (c : Char) (cs : List Char) :
    digitsValue n (c :: cs) = digitsValue (10 * n + digitValue c) cs := by
  simp only [digitsValue, List.foldl_cons]

theorem digitsValue_toDigits (n : Nat) : digitsValue 0 (Nat.toDigits 10 n) = n := by
  have hvalue := Nat.ofDigitChars_ten_toDigits (n := n)
  rwa [Nat.ofDigitChars_eq_foldl] at hvalue

private theorem le_digitsValue (n : Nat) (cs : List Char) :
    n * tenTo cs.length ≤ digitsValue n cs := by
  induction cs generalizing n with
  | nil => exact Nat.le_of_eq (Nat.mul_one n)
  | cons c cs ih =>
    calc n * tenTo (cs.length + 1) = 10 * n * tenTo cs.length := by rw [tenTo_succ]; ring
      _ ≤ (10 * n + digitValue c) * tenTo cs.length := Nat.mul_le_mul_right _ (Nat.le_add_right _ _)
      _ ≤ digitsValue (10 * n + digitValue c) cs := ih _

theorem digitsValue_lt {cs : List Char} (h : ∀ c ∈ cs, c.isDigit = true) (n : Nat) :
    digitsValue n cs < (n + 1) * tenTo cs.length := by
  induction cs generalizing n with
  | nil => simp [digitsValue, tenTo_zero]
  | cons c cs ih =>
    obtain ⟨hc, hcs⟩ := List.forall_mem_cons.1 h
    have hdigit : digitValue c < 10 := by
      have hnine : '9'.toNat = '0'.toNat + 9 := rfl
      rw [Char.isDigit_iff_toNat] at hc
      unfold digitValue
      omega
    calc digitsValue (10 * n + digitValue c) cs
        < (10 * n + digitValue c + 1) * tenTo cs.length := ih hcs _
      _ ≤ (n + 1) * 10 * tenTo cs.length := Nat.mul_le_mul_right _ (by omega)
      _ = (n + 1) * tenTo (cs.length + 1) := by rw [tenTo_succ]; ring

private theorem digitsValue_fits {cs : List Char} (h : ∀ c ∈ cs, c.isDigit = true)
    (hlength : cs.length ≤ 19) : digitsValue 0 cs < 18446744073709551616 :=
  calc digitsValue 0 cs < (0 + 1) * tenTo cs.length := digitsValue_lt h 0
    _ ≤ (0 + 1) * tenTo 19 := Nat.mul_le_mul_left _ (tenTo_mono hlength)
    _ < 18446744073709551616 := by decide

private theorem appendDigits_of_fits {n : Nat} {cs : List Char}
    (h : digitsValue n cs < 18446744073709551616) :
    appendDigits n cs = (digitsValue n cs, []) := by
  induction cs generalizing n with
  | nil => rfl
  | cons c cs ih =>
    have hnext : n * 10 + digitValue c < 18446744073709551616 := by
      have hpos := tenTo_pos cs.length
      have hle := le_digitsValue (10 * n + digitValue c) cs
      rw [digitsValue_cons] at h
      have hone := Nat.le_mul_of_pos_right (10 * n + digitValue c) hpos
      omega
    rw [appendDigits, if_pos hnext, Nat.mul_comm]
    exact ih h

private theorem appendDigits_spec {n : Nat} (hn : n < 18446744073709551616) (cs : List Char) :
    (appendDigits n cs).1 < 18446744073709551616 ∧
      (appendDigits n cs).2.length ≤ cs.length ∧
      (appendDigits n cs).1 * tenTo (appendDigits n cs).2.length ≤ digitsValue n cs := by
  induction cs generalizing n with
  | nil => exact ⟨hn, Nat.le_refl _, Nat.le_of_eq (Nat.mul_one n)⟩
  | cons c cs ih =>
    by_cases hnext : n * 10 + digitValue c < 18446744073709551616
    · obtain ⟨hbits, hlength, hvalue⟩ := ih hnext
      rw [appendDigits, if_pos hnext]
      refine ⟨hbits, by rw [List.length_cons]; omega, ?_⟩
      rwa [digitsValue_cons, Nat.mul_comm 10 n]
    · rw [appendDigits, if_neg hnext]
      exact ⟨hn, Nat.le_refl _, le_digitsValue n (c :: cs)⟩

end Digits

section Numerals

def EndsNumeral (rest : List Char) : Prop :=
  ∀ c ∈ rest.head?, c.isDigit = false ∧ c ≠ '.' ∧ c ≠ 'e' ∧ c ≠ 'E'

variable {negative : Bool} {whole part rest : List Char} {significand : Nat} {power : Int}

theorem span_isDigit {digits : List Char} (h : ∀ c ∈ digits, c.isDigit = true)
    (hrest : ∀ c ∈ rest.head?, c.isDigit = false) :
    (digits ++ rest).span Char.isDigit = (digits, rest) := by
  rw [List.span_eq_takeWhile_dropWhile, List.takeWhile_append_of_pos h,
    List.dropWhile_append_of_pos h]
  cases rest with
  | nil => simp
  | cons c rest =>
    have hc := hrest c rfl
    simp [hc]

private theorem readNumber_signed (hwhole : IsWhole whole)
    (hrest : ∀ c ∈ rest.head?, c.isDigit = false)
    (negative : Bool) : readNumber ((if negative then ['-'] else []) ++ (whole ++ rest)) =
      readNumberTail negative whole rest := by
  have hspan := span_isDigit hwhole.1.2 hrest
  cases whole with
  | nil => exact absurd rfl hwhole.1.1
  | cons first others =>
    have hfirst : first ≠ '-' := by
      rintro rfl
      exact absurd (hwhole.1.2 '-' List.mem_cons_self) (by decide)
    rw [List.cons_append] at hspan ⊢
    generalize others ++ rest = body at hspan ⊢
    -- a nought is refused in front of further digits only
    cases others with
    | nil =>
      cases negative <;> simp [readNumber, hspan, hfirst, -List.span_eq_takeWhile_dropWhile]
    | cons second others =>
      have hzero : first ≠ '0' := by
        rintro rfl
        cases hwhole.2 rfl
      cases negative <;> simp [readNumber, hspan, hfirst, hzero, -List.span_eq_takeWhile_dropWhile]

private theorem readNumberTail_of_ends (h : EndsNumeral rest) :
    readNumberTail negative whole rest =
      if !(appendDigits 0 whole).2.isEmpty then
        (scaled? negative (appendDigits 0 whole).1 (appendDigits 0 whole).2.length).map (·, rest)
      else if negative && (appendDigits 0 whole).1 == 0 then
        some (.decimal (Finite64.zero true), rest)
      else
        let value : Int := if negative then -(appendDigits 0 whole).1 else (appendDigits 0 whole).1
        if h : -9223372036854775808 ≤ value ∧ value < 18446744073709551616 then
          some (.integer value h, rest)
        else (scaled? negative (appendDigits 0 whole).1 0).map (·, rest) := by
  unfold readNumberTail
  cases rest with
  | nil => rfl
  | cons c rest =>
    obtain ⟨-, hpoint, hlower, hupper⟩ := h c rfl
    simp [hpoint, hlower, hupper]

private theorem readNumber_int {n : Int} (hn : -9223372036854775808 ≤ n ∧ n < 18446744073709551616)
    (hrest : EndsNumeral rest) :
    readNumber ((toString n).toList ++ rest) = some (.integer n hn, rest) := by
  have htail {negative : Bool} {m : Nat} (hm : m < 18446744073709551616)
      (hvalue : (if negative then -(m : Int) else m) = n) (hzero : negative = true → m ≠ 0) :
      readNumberTail negative (Nat.toDigits 10 m) rest = some (.integer n hn, rest) := by
    have hdigits : appendDigits 0 (Nat.toDigits 10 m) = (m, []) := by
      have hfits : digitsValue 0 (Nat.toDigits 10 m) < 18446744073709551616 := by
        rwa [digitsValue_toDigits]
      rw [appendDigits_of_fits hfits, digitsValue_toDigits]
    have hnought : (negative && m == 0) = false := by
      simpa using hzero
    rw [readNumberTail_of_ends hrest, hdigits]
    simp only [hnought, hvalue, hn]
    rfl
  have hdigit : ∀ c ∈ rest.head?, c.isDigit = false := fun c hc => (hrest c hc).1
  cases n with
  | ofNat m =>
    have htext : toString (Int.ofNat m) = toString m := rfl
    rw [htext, toList_toString]
    have hread := readNumber_signed (isWhole_toDigits m) hdigit false
    rw [if_neg Bool.false_ne_true, List.nil_append] at hread
    rw [hread]
    have hbits : (m : Int) < 18446744073709551616 := hn.2
    exact htail (by omega) rfl nofun
  | negSucc m =>
    have htext : toString (Int.negSucc m) = "-" ++ toString (m + 1) := rfl
    rw [htext, String.toList_append, toList_toString, List.append_assoc]
    refine (readNumber_signed (isWhole_toDigits (m + 1)) hdigit true).trans ?_
    exact htail (by omega) rfl fun _ => Nat.succ_ne_zero m

private theorem finishNumber_of_ends (h : EndsNumeral rest) :
    finishNumber negative significand power rest =
      (scaled? negative significand power).map (·, rest) := by
  unfold finishNumber
  cases rest with
  | nil => rfl
  | cons c rest =>
    obtain ⟨-, -, hlower, hupper⟩ := h c rfl
    simp [hlower, hupper]

def IsReadable (cs : List Char) : Prop :=
  ∀ (negative : Bool) (rest : List Char), EndsNumeral rest →
    ∃ y, readNumber ((if negative then ['-'] else []) ++ (cs ++ rest)) = some (.decimal y, rest)

private theorem isReadable_fraction (hwhole : IsWhole whole) (hlength : whole.length ≤ 19)
    (hpart : IsDigits part) : IsReadable (whole ++ '.' :: part) := by
  intro negative rest hrest
  have hdigit : ∀ c ∈ ('.' :: (part ++ rest)).head?, c.isDigit = false := by
    simp
  have hfits := digitsValue_fits hwhole.1.2 hlength
  obtain ⟨hbits, hunread, -⟩ := appendDigits_spec hfits part
  rw [List.append_assoc, List.cons_append, readNumber_signed hwhole hdigit, readNumberTail,
    appendDigits_of_fits hfits]
  simp only [span_isDigit hpart.2 fun c hc => (hrest c hc).1, finishNumber_of_ends hrest]
  generalize appendDigits (digitsValue 0 whole) part = appended at hbits hunread ⊢
  obtain ⟨significand, unread⟩ := appended
  have hpower : (unread.length : Int) - part.length ≤ 0 := by
    dsimp only at hunread
    omega
  obtain ⟨y, hy⟩ := scaled?_of_isModerate hbits (.inl hpower) negative
  exact ⟨y, by simp [hpart.1, hy]⟩

private theorem readExponent_spec (hbits : significand < 18446744073709551616) (hpower : power ≤ 0)
    (hrest : EndsNumeral rest) {minus : Bool} {e : Nat}
    (h : minus = true ∨ e < 2147483648 ∧ Decimal.IsModerate ⟨significand, power + e⟩) :
    ∃ y, readExponent negative significand power
      ((if minus then '-' else '+') :: (Nat.toDigits 10 e ++ rest)) = some (.decimal y, rest) := by
  have hspan := span_isDigit (isDigits_toDigits e).2 fun c hc => (hrest c hc).1
  have hscaled : ∃ y, scaled? negative significand (if minus then power - e else power + e) =
      some (.decimal y) := by
    refine scaled?_of_isModerate hbits ?_ negative
    cases minus with
    | true => exact .inl (by simp; omega)
    | false => exact .inr (h.resolve_left Bool.false_ne_true).2
  obtain ⟨y, hy⟩ := hscaled
  have hread : readExponent negative significand power
      ((if minus then '-' else '+') :: (Nat.toDigits 10 e ++ rest)) =
      if 2147483648 ≤ e then
        if significand != 0 && !minus then none else some (.decimal (Finite64.zero negative), rest)
      else some (.decimal y, rest) := by
    cases minus with
    | true =>
      rw [if_pos rfl] at hy
      simp [readExponent, hspan, digitsValue_toDigits, hy, -List.span_eq_takeWhile_dropWhile]
    | false =>
      rw [if_neg Bool.false_ne_true] at hy
      simp [readExponent, hspan, digitsValue_toDigits, hy, -List.span_eq_takeWhile_dropWhile]
  rw [hread]
  split
  · rename_i hlarge
    rcases h with rfl | ⟨hsmall, -⟩
    · exact ⟨Finite64.zero negative, by simp⟩
    · omega
  · exact ⟨y, rfl⟩

private theorem readNumberTail_exponent (hfits : digitsValue 0 whole < 18446744073709551616)
    (hpart : ∀ c ∈ part, c.isDigit = true) :
    readNumberTail negative whole ((if part.isEmpty then [] else '.' :: part) ++ 'e' :: rest) =
      readExponent negative (appendDigits (digitsValue 0 whole) part).1
        ((appendDigits (digitsValue 0 whole) part).2.length - part.length) rest := by
  unfold readNumberTail
  rw [appendDigits_of_fits hfits]
  cases part with
  | nil => rfl
  | cons c part =>
    have hmark : ∀ c ∈ ('e' :: rest).head?, c.isDigit = false := by simp
    have hspan := span_isDigit hpart hmark
    rw [List.cons_append] at hspan
    simp [hspan, finishNumber, -List.span_eq_takeWhile_dropWhile]

private theorem isModerate_appendDigits {n : Nat} (hn : n < 18446744073709551616)
    (h : Decimal.IsModerate ⟨digitsValue n part, power⟩) :
    Decimal.IsModerate
      ⟨(appendDigits n part).1, (appendDigits n part).2.length + power⟩ := by
  rcases h with hvalue | hlast
  · obtain ⟨-, -, hle⟩ := appendDigits_spec hn part
    generalize appendDigits n part = appended at hle ⊢
    obtain ⟨significand, unread⟩ := appended
    refine .inl (le_trans ?_ hvalue)
    have hcast : (significand * tenTo unread.length : ℚ) ≤ digitsValue n part := by
      exact_mod_cast hle
    unfold Decimal.value
    dsimp only
    rw [zpow_add₀ (by norm_num), ← cast_tenTo, ← mul_assoc]
    exact mul_le_mul_of_nonneg_right hcast (by positivity)
  · -- the largest number: all of its digits fit, so none is left out
    have hdigits : digitsValue n part = 17976931348623157 := congrArg Decimal.digits hlast
    have hpower : power = 292 := congrArg Decimal.power hlast
    have hfits : digitsValue n part < 18446744073709551616 := by
      rw [hdigits]
      decide
    rw [appendDigits_of_fits hfits, hdigits, hpower]
    exact .inr rfl

private theorem isReadable_scientific {first : Char} (hdigits : IsDigits (first :: part))
    (minus : Bool)
    (e : Nat) (h : minus = true ∨ e < 2147483648 ∧
      Decimal.IsModerate ⟨digitsValue 0 (first :: part), e - part.length⟩) :
    IsReadable ((if part.isEmpty then [first] else first :: '.' :: part) ++
      'e' :: (if minus then '-' else '+') :: Nat.toDigits 10 e) := by
  intro negative rest hrest
  obtain ⟨hfirst, hpart⟩ := List.forall_mem_cons.1 hdigits.2
  have hwhole := isWhole_digit hfirst
  have hfits : digitsValue 0 [first] < 18446744073709551616 :=
    digitsValue_fits hwhole.1.2 (by simp)
  obtain ⟨hbits, hunread, -⟩ := appendDigits_spec hfits part
  have htext : (if part.isEmpty then [first] else first :: '.' :: part) ++
      'e' :: (if minus then '-' else '+') :: Nat.toDigits 10 e ++ rest =
      [first] ++ ((if part.isEmpty then [] else '.' :: part) ++
        'e' :: (if minus then '-' else '+') :: (Nat.toDigits 10 e ++ rest)) := by
    cases part <;> simp
  have hdigit : ∀ c ∈ ((if part.isEmpty then [] else '.' :: part) ++
      'e' :: (if minus then '-' else '+') :: (Nat.toDigits 10 e ++ rest)).head?,
      c.isDigit = false := by
    cases part <;> simp
  rw [htext, readNumber_signed hwhole hdigit, readNumberTail_exponent hfits hpart]
  refine readExponent_spec hbits (by omega) hrest
    (h.imp_right fun ⟨hsmall, hmoderate⟩ => ⟨hsmall, ?_⟩)
  have hlower := isModerate_appendDigits hfits hmoderate
  rwa [show ((appendDigits (digitsValue 0 [first]) part).2.length : Int) - part.length + e =
    (appendDigits (digitsValue 0 [first]) part).2.length + (e - part.length) by omega]

theorem tenTo_le_of_toDigits {n : Nat} {first : Char} (hn : n ≠ 0)
    (hdigits : Nat.toDigits 10 n = first :: part) : tenTo part.length ≤ n := by
  by_cases hpart : part.length = 0
  · rw [hpart, tenTo_zero]
    omega
  · by_contra hless
    have hlength := (Nat.length_toDigits_le_iff (by decide) (by omega)).2 (Nat.not_le.1 hless)
    rw [hdigits, List.length_cons] at hlength
    omega

private theorem exponent_lt_of_isModerate {d : Decimal} {first : Char} (hmoderate : d.IsModerate)
    (hne : d.digits ≠ 0) (hdigits : Nat.toDigits 10 d.digits = first :: part) :
    d.power + part.length < 309 := by
  rcases hmoderate with hvalue | rfl
  · by_contra hlarge
    have hlimit : Finite64.lastMiddle < tenTo 309 := by decide +kernel
    have hleast : (tenTo part.length : ℚ) ≤ d.digits := by
      exact_mod_cast tenTo_le_of_toDigits hne hdigits
    have hreached : (tenTo 309 : ℚ) ≤ Finite64.lastMiddle :=
      calc (tenTo 309 : ℚ) = 10 ^ ((309 : Nat) : Int) := cast_tenTo 309
        _ ≤ 10 ^ ((part.length : Int) + d.power) := zpow_le_zpow_right₀ (by norm_num) (by omega)
        _ = tenTo part.length * 10 ^ d.power := by rw [zpow_add₀ (by norm_num), cast_tenTo]
        _ ≤ d.digits * 10 ^ d.power := mul_le_mul_of_nonneg_right hleast (by positivity)
        _ ≤ Finite64.lastMiddle := hvalue
    exact absurd (Nat.cast_le.1 hreached) (Nat.not_le.2 hlimit)
  · have hlength : (Nat.toDigits 10 17976931348623157).length = 17 := by decide
    rw [hdigits, List.length_cons] at hlength
    dsimp only
    omega

private theorem isReadable_set {d : Decimal} (hsettable : IsSettable d) (hmoderate : d.IsModerate) :
    IsReadable (DecimalLayout.json.set d).toList := by
  rcases set_json hsettable with ⟨whole, part, hwhole, hlength, hpart, htext⟩ |
    ⟨first, part, hdigits, htext⟩
  · rw [htext]
    exact isReadable_fraction hwhole (by omega) hpart
  · have hvalue : digitsValue 0 (first :: part) = d.digits := by
      rw [← hdigits, digitsValue_toDigits]
    have hscientific := isReadable_scientific (hdigits ▸ isDigits_toDigits d.digits)
      (decide (d.power + part.length < 0)) (d.power + part.length).natAbs ?_
    · rw [htext]
      simpa using hscientific
    · by_cases hbelow : d.power + part.length < 0
      · exact .inl (decide_eq_true hbelow)
      · right
        have hpower : ((d.power + part.length).natAbs : Int) - part.length = d.power := by omega
        rw [hvalue, hpower]
        refine ⟨?_, hmoderate⟩
        by_cases hzero : d.digits = 0
        · have hnought := hsettable hzero
          have hpart : part.length = 0 := by
            rw [hzero] at hdigits
            cases hdigits
            rfl
          omega
        · have hless := exponent_lt_of_isModerate hmoderate hzero hdigits
          omega

inductive Number.Alike : Number → Number → Prop
  | integer {value : Int} {fits : -9223372036854775808 ≤ value ∧ value < 18446744073709551616} :
      Alike (.integer value fits) (.integer value fits)
  | decimal {x y : Finite64} : Alike (.decimal x) (.decimal y)

theorem readNumber_text (n : Number) (hrest : EndsNumeral rest) :
    ∃ n', n.Alike n' ∧ readNumber (n.text.toList ++ rest) = some (n', rest) := by
  cases n with
  | integer value fits => exact ⟨_, .integer, readNumber_int fits hrest⟩
  | decimal x =>
    have hset : IsReadable (DecimalLayout.json.set
        (if x.isZero then ⟨0, 0⟩ else x.shortest DecimalLayout.json.tie)).toList := by
      split
      · exact isReadable_set (fun _ => Int.le_refl 0) Decimal.isModerate_zero
      · rename_i hx
        rw [Bool.not_eq_true] at hx
        exact isReadable_set (isSettable_shortest hx _) (Finite64.shortest_isModerate hx _)
    obtain ⟨y, hy⟩ := hset x.negative rest hrest
    refine ⟨.decimal y, .decimal, ?_⟩
    unfold Number.text Finite64.format
    dsimp only
    rw [String.toList_append, List.append_assoc]
    cases hsign : x.negative <;> simpa [hsign] using hy

end Numerals

end Json

end SchemaMocks
