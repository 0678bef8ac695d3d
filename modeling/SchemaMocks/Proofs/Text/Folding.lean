import SchemaMocks.Text.Case
import SchemaMocks.Text.Search

set_option autoImplicit false
set_option relaxedAutoImplicit false

/-!
Words in lower case and in folded case. A word of plain letters that comes up in the lower case of a
text comes up in its folding as well, and in the same place: of the characters outside of ASCII only
the Kelvin sign and the dotted capital I have ASCII letters in their lower case.
-/

namespace SchemaMocks.Text

def IsPlainLetter (c : Char) : Prop :=
  c.isLower = true ∧ c ≠ 'k'

instance (c : Char) : Decidable (IsPlainLetter c) :=
  inferInstanceAs (Decidable (_ ∧ _))

structure IsPlainWord (word : List Char) : Prop where
  plain : ∀ c ∈ word, IsPlainLetter c
  last_ne : word.getLast? ≠ some 'i'

instance (word : List Char) : Decidable (IsPlainWord word) :=
  decidable_of_iff
    ((word.all fun c => decide (IsPlainLetter c)) = true ∧ word.getLast? ≠ some 'i')
    ⟨fun h => ⟨by simpa using h.1, h.2⟩, fun h => ⟨by simpa using h.plain, h.last_ne⟩⟩

private theorem IsPlainLetter.toNat_lt {c : Char} (h : IsPlainLetter c) : c.toNat < 0x80 := by
  have hlower : c.toNat ≤ 'z'.toNat :=
    UInt32.le_iff_toNat_le.1 (of_decide_eq_true (Bool.and_eq_true_iff.1 h.1).2)
  exact Nat.lt_of_le_of_lt hlower (by decide)

private theorem IsPlainLetter.fold_eq {c : Char} (h : IsPlainLetter c) : fold c = c := by
  have hall : ∀ n < 0x80, IsPlainLetter (Char.ofNat n) → fold (Char.ofNat n) = Char.ofNat n := by
    decide +kernel
  have hc := hall c.toNat h.toNat_lt
  rw [Char.ofNat_toNat] at hc
  exact hc h

theorem IsPlainWord.map_fold {word : List Char} (h : IsPlainWord word) : word.map fold = word :=
  (List.map_congr_left fun c hc => (h.plain c hc).fold_eq).trans (List.map_id' word)

theorem toNat_ofNat_of_ne_zero {n : Nat} (h : Char.ofNat n ≠ '\x00') :
    (Char.ofNat n).toNat = n := by
  by_cases hvalid : n.isValidChar
  · have hchar : Char.ofNat n = Char.ofNatAux n hvalid := dif_pos hvalid
    exact congrArg Char.toNat hchar
  · exact absurd (dif_neg hvalid) h

private theorem lowerRuns_outside_ascii : ∀ run ∈ lowerRuns, run.last < 0x80 ∨
    (0x80 : Int) ≤ run.first + run.shift ∨
      run.first = 0x212A ∧ run.last = 0x212A ∧ run.shift = -8383 := by
  decide +kernel

private theorem CaseRun.covers_bounds {run : CaseRun} {n : Nat} (h : run.covers n = true) :
    run.first ≤ n ∧ n ≤ run.last := by
  unfold CaseRun.covers at h
  obtain ⟨hbounds, -⟩ := Bool.and_eq_true_iff.1 h
  simpa using hbounds

private theorem not_isPlainLetter_mapByRuns {c : Char} (hc : 0x80 ≤ c.toNat) :
    ¬IsPlainLetter (mapByRuns lowerRuns c) := by
  intro hplain
  unfold mapByRuns at hplain
  split at hplain
  · rename_i run hfind
    have hcovers : run.covers c.toNat = true := by
      simpa using List.find?_some hfind
    obtain ⟨hfirst, hlast⟩ := CaseRun.covers_bounds hcovers
    have hne : Char.ofNat (Int.toNat (c.toNat + run.shift)) ≠ '\x00' := by
      intro hzero
      rw [hzero] at hplain
      exact absurd hplain (by decide)
    have hlt := hplain.toNat_lt
    rw [toNat_ofNat_of_ne_zero hne] at hlt
    rcases lowerRuns_outside_ascii run (List.mem_of_find?_eq_some hfind) with h | h | hkelvin
    · omega
    · omega
    · have hletter : Int.toNat (c.toNat + run.shift) = 'k'.toNat := by
        have hk : 'k'.toNat = 107 := rfl
        omega
      rw [hletter, Char.ofNat_toNat] at hplain
      exact hplain.2 rfl
  · have hlt := hplain.toNat_lt
    omega

private theorem fold_eq_of_lowerChar {c letter : Char} (hplain : IsPlainLetter letter)
    (h : lowerChar c = [letter]) : fold c = letter := by
  unfold lowerChar at h
  unfold fold
  split at h
  · rename_i hascii
    rw [if_pos hascii]
    exact List.singleton_inj.1 h
  · rename_i hascii
    split at h
    · cases h
    · obtain rfl := List.singleton_inj.1 h
      exact absurd hplain (not_isPlainLetter_mapByRuns (Nat.not_lt.1 hascii))

private theorem lowerAfter_cons (passed : List Char) (c : Char) (rest : List Char) :
    lowerAfter passed (c :: rest) = 'i' :: '\u0307' :: lowerAfter (c :: passed) rest ∨
      ∃ d, lowerAfter passed (c :: rest) = d :: lowerAfter (c :: passed) rest ∧
        (IsPlainLetter d → fold c = d) := by
  rw [lowerAfter]
  by_cases hsigma : c = 'Σ'
  · rw [if_pos hsigma]
    right
    split
    · exact ⟨'ς', rfl, fun hplain => absurd hplain (by decide)⟩
    · exact ⟨'σ', rfl, fun hplain => absurd hplain (by decide)⟩
  · rw [if_neg hsigma]
    have hchar : lowerChar c = ['i', '\u0307'] ∨ ∃ d, lowerChar c = [d] := by
      unfold lowerChar
      split
      · exact .inr ⟨_, rfl⟩
      · split
        · exact .inl rfl
        · exact .inr ⟨_, rfl⟩
    rcases hchar with hchar | ⟨d, hchar⟩
    · rw [hchar]
      exact .inl rfl
    · rw [hchar]
      exact .inr ⟨d, rfl, fun hplain => fold_eq_of_lowerChar hplain hchar⟩

private theorem IsPlainWord.tail {letter : Char} {word : List Char}
    (h : IsPlainWord (letter :: word)) :
    IsPlainWord word := by
  refine ⟨fun c hc => h.plain c (List.mem_cons_of_mem _ hc), fun hlast => h.last_ne ?_⟩
  rw [List.getLast?_cons, hlast]
  rfl

private theorem prefix_folded {word : List Char} (hword : IsPlainWord word) (passed cs : List Char)
    (h : word <+: lowerAfter passed cs) : word <+: cs.map fold := by
  induction word generalizing passed cs with
  | nil => exact List.nil_prefix
  | cons letter word ih =>
    cases cs with
    | nil => exact absurd (List.prefix_nil.1 h) (List.cons_ne_nil _ _)
    | cons c rest =>
      rcases lowerAfter_cons passed c rest with hlower | ⟨d, hlower, hfold⟩
      · rw [hlower] at h
        obtain ⟨rfl, hrest⟩ := List.cons_prefix_cons.1 h
        -- a combining dot would have to follow in the word
        cases word with
        | nil => exact absurd rfl hword.last_ne
        | cons next word =>
          obtain ⟨rfl, -⟩ := List.cons_prefix_cons.1 hrest
          exact absurd (hword.tail.plain _ List.mem_cons_self) (by decide)
      · rw [hlower] at h
        obtain ⟨rfl, hrest⟩ := List.cons_prefix_cons.1 h
        have hletter : fold c = letter := hfold (hword.plain letter List.mem_cons_self)
        rw [List.map_cons, List.cons_prefix_cons]
        exact ⟨hletter.symm, ih hword.tail _ rest hrest⟩

theorem occursIn_iff (needle cs : List Char) : occursIn needle cs = true ↔ needle <:+: cs := by
  induction cs with
  | nil => rw [occursIn, List.isPrefixOf_iff_prefix, List.prefix_nil, List.infix_nil]
  | cons c rest ih =>
    rw [occursIn, Bool.or_eq_true_iff, List.isPrefixOf_iff_prefix, ih, List.infix_cons_iff]

private theorem infix_folded {word : List Char} (hword : IsPlainWord word) (passed cs : List Char)
    (h : word <:+: lowerAfter passed cs) : word <:+: cs.map fold := by
  induction cs generalizing passed with
  | nil => exact h
  | cons c rest ih =>
    rw [List.map_cons, List.infix_cons_iff]
    have hfront (hstarts : word <+: lowerAfter passed (c :: rest)) :
        word <+: fold c :: rest.map fold :=
      prefix_folded hword passed (c :: rest) hstarts
    rcases lowerAfter_cons passed c rest with hlower | ⟨d, hlower, -⟩
    · rw [hlower] at h hfront
      rcases List.infix_cons_iff.1 h with hstarts | hrest
      · exact .inl (hfront hstarts)
      · rcases List.infix_cons_iff.1 hrest with hdot | hrest
        · -- no plain word starts with the combining dot
          cases word with
          | nil => exact .inl List.nil_prefix
          | cons letter word =>
            obtain ⟨rfl, -⟩ := List.cons_prefix_cons.1 hdot
            exact absurd (hword.plain _ List.mem_cons_self) (by decide)
        · exact .inr (ih _ hrest)
    · rw [hlower] at h hfront
      rcases List.infix_cons_iff.1 h with hstarts | hrest
      · exact .inl (hfront hstarts)
      · exact .inr (ih _ hrest)

theorem occursIn_folded {s word : String} (hword : IsPlainWord word.toList)
    (h : contains (lowered s) word = true) :
    occursIn word.toList (s.toList.map fold) = true := by
  rw [contains, lowered, String.toList_ofList, occursIn_iff] at h
  rw [occursIn_iff]
  exact infix_folded hword [] s.toList h

end SchemaMocks.Text
