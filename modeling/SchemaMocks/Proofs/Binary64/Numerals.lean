import Mathlib.Data.List.TakeWhile
import SchemaMocks.Proofs.Binary64.Overflow

set_option autoImplicit false
set_option relaxedAutoImplicit false

/-!
The texts of numerals. A numeral without a sign is a word, or digits with at most one point and an
exponent, which denote a decimal. The numerals without a finite number are the words and those whose
decimal is too large.
-/

namespace SchemaMocks

open Json (IsDigits)
open Text (digitsValue)

private theorem Text.map_digits?_eq_some_iff {digits : List Char} {f : Nat → Int} {n : Int} :
    (digits? digits).map f = some n ↔ IsDigits digits ∧ f (digitsValue 0 digits) = n := by
  simp only [Option.map_eq_some_iff, digits?_eq_some_iff]
  constructor
  · rintro ⟨_, ⟨hne, hdigits, rfl⟩, hn⟩
    exact ⟨⟨hne, hdigits⟩, hn⟩
  · rintro ⟨⟨hne, hdigits⟩, hn⟩
    exact ⟨_, ⟨hne, hdigits, rfl⟩, hn⟩

namespace Binary64

/-- The exponent of a numeral: a mark, an optional sign and digits, or nothing at all. -/
inductive IsExponent : List Char → Int → Prop
  | none : IsExponent [] 0
  | plain {mark : Char} {digits : List Char} (hmark : mark = 'e' ∨ mark = 'E')
      (hdigits : IsDigits digits) : IsExponent (mark :: digits) (digitsValue 0 digits)
  | plus {mark : Char} {digits : List Char} (hmark : mark = 'e' ∨ mark = 'E')
      (hdigits : IsDigits digits) : IsExponent (mark :: '+' :: digits) (digitsValue 0 digits)
  | minus {mark : Char} {digits : List Char} (hmark : mark = 'e' ∨ mark = 'E')
      (hdigits : IsDigits digits) : IsExponent (mark :: '-' :: digits) (-(digitsValue 0 digits))

inductive IsFraction : List Char → List Char → Prop
  | none : IsFraction [] []
  | point {part : List Char} (hpart : ∀ c ∈ part, c.isDigit = true) : IsFraction ('.' :: part) part

/-- A numeral without a sign and the decimal that it denotes. There is a digit before the point or
after it. -/
inductive Denotes : List Char → Decimal → Prop
  | intro {whole fraction part exponent : List Char} {e : Int}
      (hwhole : ∀ c ∈ whole, c.isDigit = true) (hfraction : IsFraction fraction part)
      (hsome : whole ++ part ≠ []) (hexponent : IsExponent exponent e) :
      Denotes (whole ++ (fraction ++ exponent)) ⟨digitsValue 0 (whole ++ part), e - part.length⟩

def EndsDigits (fraction rest : List Char) : Prop :=
  ∀ c ∈ rest.head?, c.isDigit = false ∧ (fraction = [] → c ≠ '.')

def IsWord (cs : List Char) : Prop :=
  String.ofList (cs.map Char.toLower) ∈ ["inf", "infinity", "nan"]

/-- Numerals without a sign for which there is no finite number. -/
inductive IsUnsignedNonFinite : List Char → Prop
  | word {cs : List Char} (hword : IsWord cs) : IsUnsignedNonFinite cs
  | decimal {cs : List Char} {d : Decimal} (hd : Denotes cs d)
      (hvalue : (Finite64.overflow : ℚ) ≤ d.value) : IsUnsignedNonFinite cs

/-- Numerals, perhaps with a sign, for which there is no finite number. -/
def IsNonFinite (cs : List Char) : Prop :=
  ∃ sign body, sign ∈ [[], ['+'], ['-']] ∧ IsUnsignedNonFinite body ∧ cs = sign ++ body

section Unsigned

variable {cs : List Char} {negative : Bool}

private theorem exponent?_eq_some_iff {e : Int} : exponent? cs = some e ↔ IsExponent cs e := by
  constructor
  · intro h
    cases cs with
    | nil =>
      cases h
      exact .none
    | cons mark rest =>
      unfold exponent? at h
      dsimp only at h
      split at h
      · rename_i hmark
        have hmark : mark = 'e' ∨ mark = 'E' := by simpa using hmark
        split at h
        · obtain ⟨hdigits, rfl⟩ := Text.map_digits?_eq_some_iff.1 h
          exact .plus hmark hdigits
        · obtain ⟨hdigits, rfl⟩ := Text.map_digits?_eq_some_iff.1 h
          exact .minus hmark hdigits
        · obtain ⟨hdigits, rfl⟩ := Text.map_digits?_eq_some_iff.1 h
          exact .plain hmark hdigits
      · cases h
  · intro h
    cases h with
    | none => rfl
    | @plain mark digits hmark hdigits =>
      have hmark : (decide (mark = 'e') || decide (mark = 'E')) = true := by simpa using hmark
      unfold exponent?
      dsimp only
      rw [if_pos hmark]
      split
      · exact absurd (hdigits.2 '+' List.mem_cons_self) (by decide)
      · exact absurd (hdigits.2 '-' List.mem_cons_self) (by decide)
      · exact Text.map_digits?_eq_some_iff.2 ⟨hdigits, rfl⟩
    | @plus mark digits hmark hdigits =>
      have hmark : (decide (mark = 'e') || decide (mark = 'E')) = true := by simpa using hmark
      rw [exponent?, if_pos hmark]
      exact Text.map_digits?_eq_some_iff.2 ⟨hdigits, rfl⟩
    | @minus mark digits hmark hdigits =>
      have hmark : (decide (mark = 'e') || decide (mark = 'E')) = true := by simpa using hmark
      rw [exponent?, if_pos hmark]
      exact Text.map_digits?_eq_some_iff.2 ⟨hdigits, rfl⟩

private theorem IsExponent.endsDigits {e : Int} (h : IsExponent cs e) (fraction : List Char) :
    EndsDigits fraction cs := by
  intro c hc
  have hmarks : c = 'e' ∨ c = 'E' → c.isDigit = false ∧ (fraction = [] → c ≠ '.') := by
    rintro (rfl | rfl) <;> exact ⟨rfl, fun _ => by decide⟩
  cases h with
  | none => cases hc
  | plain hmark | plus hmark | minus hmark =>
    cases hc
    exact hmarks hmark

private theorem spanDigits_append {digits rest : List Char}
    (hdigits : ∀ c ∈ digits, c.isDigit = true)
    (hrest : ∀ c ∈ rest.head?, c.isDigit = false) :
    spanDigits (digits ++ rest) = (digits, rest) :=
  Json.span_isDigit hdigits hrest

private theorem spanDigits_spec (cs : List Char) :
    (∀ c ∈ (spanDigits cs).1, c.isDigit = true) ∧ (spanDigits cs).1 ++ (spanDigits cs).2 = cs := by
  unfold spanDigits
  rw [List.span_eq_takeWhile_dropWhile]
  exact ⟨fun c hc => List.mem_takeWhile_imp hc, List.takeWhile_append_dropWhile⟩

section Parts

variable {whole fraction part rest : List Char}

private theorem unsigned?_of_parts (hwhole : ∀ c ∈ whole, c.isDigit = true)
    (hfraction : IsFraction fraction part) (hrest : EndsDigits fraction rest) :
    unsigned? negative (whole ++ (fraction ++ rest)) =
      if whole.isEmpty && part.isEmpty then none
      else (exponent? rest).map fun e =>
        nearestDecimal negative (digitsValue 0 (whole ++ part)) (e - part.length) := by
  unfold unsigned?
  cases hfraction with
  | none =>
    rw [List.nil_append, spanDigits_append hwhole fun c hc => (hrest c hc).1]
    dsimp only
    split
    · exact absurd rfl ((hrest '.' rfl).2 rfl)
    · rfl
  | point hpart =>
    have hsecond := spanDigits_append hpart fun c hc => (hrest c hc).1
    rw [spanDigits_append hwhole (by simp)]
    simp only [List.cons_append, hsecond]

private theorem exists_parts (cs : List Char) : ∃ whole fraction part rest,
    cs = whole ++ (fraction ++ rest) ∧ (∀ c ∈ whole, c.isDigit = true) ∧
      IsFraction fraction part ∧ EndsDigits fraction rest := by
  have hdropped (cs : List Char) : ∀ c ∈ (spanDigits cs).2.head?, c.isDigit = false := by
    intro c hc
    have hend := List.head?_dropWhile_not Char.isDigit cs
    rw [spanDigits, List.span_eq_takeWhile_dropWhile] at hc
    rwa [hc] at hend
  obtain ⟨hwhole, hcs⟩ := spanDigits_spec cs
  by_cases hpoint : ∃ rest, (spanDigits cs).2 = '.' :: rest
  · obtain ⟨rest, hpoint⟩ := hpoint
    obtain ⟨hpart, hrest⟩ := spanDigits_spec rest
    refine ⟨_, _, _, (spanDigits rest).2, ?_, hwhole, .point hpart,
      fun c hc => ⟨hdropped rest c hc, nofun⟩⟩
    rw [List.cons_append, hrest, ← hpoint, hcs]
  · refine ⟨_, _, _, (spanDigits cs).2, hcs.symm, hwhole, .none, fun c hc => ⟨hdropped cs c hc, ?_⟩⟩
    rintro - rfl
    cases hsecond : (spanDigits cs).2 with
    | nil =>
      rw [hsecond] at hc
      cases hc
    | cons d rest =>
      rw [hsecond] at hc
      cases hc
      exact hpoint ⟨rest, hsecond⟩

end Parts

private theorem unsigned?_eq_some_iff {x : Binary64} : unsigned? negative cs = some x ↔
    ∃ d, Denotes cs d ∧ nearestDecimal negative d.digits d.power = x := by
  constructor
  · intro h
    obtain ⟨whole, fraction, part, rest, rfl, hwhole, hfraction, hrest⟩ := exists_parts cs
    rw [unsigned?_of_parts hwhole hfraction hrest, Option.ite_none_left_eq_some] at h
    obtain ⟨hsome, h⟩ := h
    obtain ⟨e, he, rfl⟩ := Option.map_eq_some_iff.1 h
    refine ⟨_, .intro hwhole hfraction ?_ (exponent?_eq_some_iff.1 he), rfl⟩
    simpa using hsome
  · rintro ⟨d, hd, rfl⟩
    cases hd with
    | intro hwhole hfraction hsome hexponent =>
      rw [unsigned?_of_parts hwhole hfraction (hexponent.endsDigits _),
        if_neg (by simpa using hsome), exponent?_eq_some_iff.2 hexponent]
      rfl

end Unsigned

section Signed

variable {sign cs : List Char} {negative : Bool}

private theorem word?_cases (negative : Bool) (cs : List Char) :
    (IsWord cs ∧ ∃ x, word? negative cs = some x ∧ x.isFinite = false) ∨
      (¬IsWord cs ∧ word? negative cs = none) := by
  unfold IsWord word?
  dsimp only
  generalize String.ofList (cs.map Char.toLower) = word
  split
  · rename_i hword
    exact .inl ⟨by simpa [or_assoc] using Or.inl hword, _, rfl, rfl⟩
  · split
    · rename_i hword
      exact .inl ⟨by simp_all, _, rfl, rfl⟩
    · exact .inr ⟨by simp_all, rfl⟩

private theorem unsigned_not_finite_iff (negative : Bool) (cs : List Char) :
    (∃ x, (word? negative cs).orElse (fun _ => unsigned? negative cs) = some x ∧
      x.isFinite = false) ↔ IsUnsignedNonFinite cs := by
  rcases word?_cases negative cs with ⟨hword, x, hx, hfinite⟩ | ⟨hword, hnone⟩
  · rw [hx]
    exact iff_of_true ⟨x, rfl, hfinite⟩ (.word hword)
  · rw [hnone]
    constructor
    · rintro ⟨x, hx, hfinite⟩
      obtain ⟨d, hd, rfl⟩ := unsigned?_eq_some_iff.1 hx
      exact .decimal hd ((nearestDecimal_isFinite_iff _ _ _).1 hfinite)
    · rintro (h | ⟨hd, hvalue⟩)
      · exact absurd h hword
      · exact ⟨_, unsigned?_eq_some_iff.2 ⟨_, hd, rfl⟩,
          (nearestDecimal_isFinite_iff negative _ _).2 hvalue⟩

def OpensUnsigned (c : Char) : Prop :=
  c.toLower ∈ ['i', 'n'] ∨ c.isDigit = true ∨ c = '.'

instance (c : Char) : Decidable (OpensUnsigned c) :=
  inferInstanceAs (Decidable (_ ∨ _ ∨ _))

private theorem IsUnsignedNonFinite.opens {c : Char} {rest : List Char}
    (h : IsUnsignedNonFinite (c :: rest)) : OpensUnsigned c := by
  generalize hcs : c :: rest = cs at h
  cases h with
  | word hword =>
    subst hcs
    have hheads : ∀ word ∈ ["inf", "infinity", "nan"],
        (word.toList.head?.all fun d => decide (d ∈ ['i', 'n'])) = true := by
      decide
    have hhead := hheads _ hword
    rw [String.toList_ofList, List.map_cons, List.head?_cons, Option.all_some,
      decide_eq_true_eq] at hhead
    exact .inl hhead
  | decimal hd hvalue =>
    cases hd with
    | @intro whole fraction part exponent e hwhole hfraction hsome hexponent =>
      cases whole with
      | cons d more =>
        cases hcs
        exact .inr (.inl (hwhole _ List.mem_cons_self))
      | nil =>
        cases hfraction with
        | none => exact absurd rfl hsome
        | point hpart =>
          cases hcs
          exact .inr (.inr rfl)

theorem IsNonFinite.opens {c : Char} {rest : List Char} (h : IsNonFinite (c :: rest)) :
    OpensUnsigned c ∨ c = '+' ∨ c = '-' := by
  obtain ⟨sign, body, hsign, hbody, hcs⟩ := h
  simp only [List.mem_cons, List.not_mem_nil, or_false] at hsign
  rcases hsign with rfl | rfl | rfl
  · rw [List.nil_append] at hcs
    subst hcs
    exact .inl hbody.opens
  · cases hcs
    exact .inr (.inl rfl)
  · cases hcs
    exact .inr (.inr rfl)

private theorem isNonFinite_signed {sign : Char} {rest : List Char}
    (hsign : sign = '+' ∨ sign = '-') :
    IsNonFinite (sign :: rest) ↔ IsUnsignedNonFinite rest := by
  have hopens : ¬OpensUnsigned sign := by
    rcases hsign with rfl | rfl <;> decide
  constructor
  · rintro ⟨front, body, hfront, hbody, hcs⟩
    simp only [List.mem_cons, List.not_mem_nil, or_false] at hfront
    rcases hfront with rfl | rfl | rfl
    · rw [List.nil_append] at hcs
      subst hcs
      exact absurd hbody.opens hopens
    · cases hcs
      exact hbody
    · cases hcs
      exact hbody
  · intro h
    exact ⟨[sign], rest, by rcases hsign with rfl | rfl <;> simp, h, rfl⟩

private theorem isNonFinite_bare (hplus : cs.head? ≠ some '+') (hminus : cs.head? ≠ some '-') :
    IsNonFinite cs ↔ IsUnsignedNonFinite cs := by
  constructor
  · rintro ⟨front, body, hfront, hbody, rfl⟩
    simp only [List.mem_cons, List.not_mem_nil, or_false] at hfront
    rcases hfront with rfl | rfl | rfl
    · exact hbody
    · exact absurd rfl hplus
    · exact absurd rfl hminus
  · intro h
    exact ⟨[], cs, List.mem_cons_self, h, rfl⟩

theorem ofNumeral?_not_finite_iff (cs : List Char) :
    (∃ x, ofNumeral? cs = some x ∧ x.isFinite = false) ↔ IsNonFinite cs := by
  unfold ofNumeral?
  split
  rename_i negative body hsplit
  rw [unsigned_not_finite_iff]
  split at hsplit
  · cases hsplit
    rw [isNonFinite_signed (.inl rfl)]
  · cases hsplit
    rw [isNonFinite_signed (.inr rfl)]
  · rename_i hplus hminus
    cases hsplit
    have hhead {c : Char} (h : ∀ rest, cs ≠ c :: rest) : cs.head? ≠ some c := by
      rw [Ne, List.head?_eq_some_iff]
      rintro ⟨rest, hrest⟩
      exact h rest hrest
    rw [isNonFinite_bare (hhead hplus) (hhead hminus)]

private theorem not_isUnsignedNonFinite_of_digits (h : IsDigits cs)
    (hvalue : digitsValue 0 cs < Finite64.overflow) : ¬IsUnsignedNonFinite cs := by
  rw [← unsigned_not_finite_iff false, word?_of_digits h, unsigned?_of_digits h]
  rintro ⟨x, hx, hfinite⟩
  obtain rfl := Option.some.inj hx
  rw [nearestDecimal_isFinite_iff, Decimal.le_value_iff] at hfinite
  simp only [Int.neg_zero, Int.toNat_zero, tenTo_zero, Nat.mul_one] at hfinite
  omega

theorem not_isNonFinite_of_int {n : Int}
    (h : Text.intBetween? (-9223372036854775808) 9223372036854775807 cs = some n) :
    ¬IsNonFinite cs := by
  have hlimit : 9223372036854775808 < Finite64.overflow := by decide +kernel
  unfold Text.intBetween? at h
  obtain ⟨hn, hbounds⟩ := Option.filter_eq_some_iff.1 h
  rw [Bool.and_eq_true, decide_eq_true_eq, decide_eq_true_eq] at hbounds
  have hsmall {digits : List Char} (hdigits : IsDigits digits)
      (hvalue : n.natAbs = digitsValue 0 digits) : ¬IsUnsignedNonFinite digits :=
    not_isUnsignedNonFinite_of_digits hdigits (by omega)
  split at hn
  · obtain ⟨hdigits, rfl⟩ := Text.map_digits?_eq_some_iff.1 hn
    rw [isNonFinite_signed (.inl rfl)]
    exact hsmall hdigits rfl
  · obtain ⟨hdigits, rfl⟩ := Text.map_digits?_eq_some_iff.1 hn
    rw [isNonFinite_signed (.inr rfl)]
    exact hsmall hdigits (Int.natAbs_neg _)
  · obtain ⟨hdigits, rfl⟩ := Text.map_digits?_eq_some_iff.1 hn
    have hhead {c : Char} (hc : c.isDigit = false) : cs.head? ≠ some c := by
      intro hcs
      rw [hdigits.2 c (List.mem_of_head? hcs)] at hc
      cases hc
    rw [isNonFinite_bare (hhead rfl) (hhead rfl)]
    exact hsmall hdigits rfl

end Signed

end Binary64

end SchemaMocks
