import Mathlib.Algebra.GroupWithZero.Nat
import Mathlib.Tactic.Tauto
import SchemaMocks.Pattern.CharSet

set_option autoImplicit false
set_option relaxedAutoImplicit false

/-!
Which characters a set holds. A set holds the characters whose numbers lie in one of its spans, so
the operations on spans are read as operations on numbers: inserting a span adds its numbers, and the
gaps between the spans of a set are the numbers that are missing.
-/

namespace SchemaMocks.CharSet

section Ranks

private theorem rank_lt (c : Char) : rank c < charCount := by
  have hvalid : c.toNat < 0xD800 ∨ 0xDFFF < c.toNat ∧ c.toNat < 0x110000 := c.valid
  unfold rank charCount
  split <;> omega

private theorem rank_injective : Function.Injective rank := by
  intro c d h
  have hc : c.toNat < 0xD800 ∨ 0xDFFF < c.toNat ∧ c.toNat < 0x110000 := c.valid
  have hd : d.toNat < 0xD800 ∨ 0xDFFF < d.toNat ∧ d.toNat < 0x110000 := d.valid
  have hnat : c.toNat = d.toNat := by
    unfold rank at h
    split at h <;> split at h <;> omega
  rw [← Char.ofNat_toNat c, hnat, Char.ofNat_toNat]

private theorem toNat_ofNat_of_isValidChar {n : Nat} (h : n.isValidChar) :
    (Char.ofNat n).toNat = n := by
  rw [Char.ofNat, dif_pos h]
  rfl

private theorem rank_ofRank {n : Nat} (h : n < charCount) : rank (ofRank n) = n := by
  unfold charCount at h
  unfold ofRank
  split
  · rename_i hlow
    have hnat := toNat_ofNat_of_isValidChar (n := n) (.inl hlow)
    rw [rank, hnat, if_pos hlow]
  · rename_i hhigh
    have hnat := toNat_ofNat_of_isValidChar (n := n + 0x800) (.inr ⟨by omega, by omega⟩)
    rw [rank, hnat, if_neg (by omega)]
    omega

end Ranks

section Spans

variable {spans : List (Nat × Nat)} {set a b : CharSet} {n low stop : Nat} {c : Char}

def Holds (spans : List (Nat × Nat)) (n : Nat) : Prop :=
  ∃ s ∈ spans, s.1 ≤ n ∧ n < s.2

@[simp] private theorem holds_nil : ¬Holds [] n := by
  rintro ⟨s, hs, -⟩
  cases hs

@[simp] private theorem holds_cons :
    Holds ((low, stop) :: spans) n ↔ (low ≤ n ∧ n < stop) ∨ Holds spans n := by
  simp [Holds]

private theorem contains_iff : set.contains c = true ↔ Holds set.spans (rank c) := by
  simp [contains, Holds]

private theorem holds_insertSpan :
    Holds (insertSpan low stop spans) n ↔ (low ≤ n ∧ n < stop) ∨ Holds spans n := by
  induction spans generalizing low stop with
  | nil => simp [insertSpan]
  | cons s rest ih =>
    obtain ⟨first, last⟩ := s
    simp only [insertSpan]
    split
    · exact holds_cons
    · split
      · rw [holds_cons, holds_cons, ih]
        exact or_left_comm
      · -- the two spans meet, so that together they are one
        rw [ih, holds_cons, ← or_assoc]
        refine or_congr_left ?_
        omega

private theorem lt_charCount_of_holds (h : Holds set.spans n) : n < charCount := by
  obtain ⟨s, hs, -, hn⟩ := h
  exact Nat.lt_of_lt_of_le hn (set.separated.2 s hs).2

private theorem holds_insert : Holds (set.insert low stop).spans n ↔
    (low ≤ n ∧ n < stop ∧ n < charCount) ∨ Holds set.spans n := by
  unfold insert
  split
  · rw [holds_insertSpan, Nat.lt_min]
  · rename_i hempty
    have hno : ¬(low ≤ n ∧ n < stop ∧ n < charCount) := by omega
    simp [hno]

private theorem holds_foldr_insert :
    Holds (spans.foldr (fun s set => set.insert s.1 s.2) set).spans n ↔
    (Holds spans n ∧ n < charCount) ∨ Holds set.spans n := by
  induction spans with
  | nil => simp
  | cons s rest ih =>
    obtain ⟨low, stop⟩ := s
    rw [List.foldr_cons, holds_insert, ih, holds_cons]
    dsimp only
    tauto

private theorem holds_ofSpans : Holds (ofSpans spans).spans n ↔ Holds spans n ∧ n < charCount :=
  holds_foldr_insert.trans (or_iff_left holds_nil)

theorem contains_empty : empty.contains c = false := rfl

theorem contains_ofChars {cs : List Char} : (ofChars cs).contains c = true ↔ c ∈ cs := by
  have hlt := rank_lt c
  rw [contains_iff, ofChars, holds_ofSpans, and_iff_left hlt]
  induction cs with
  | nil => simp
  | cons d rest ih =>
    rw [List.map_cons, holds_cons, List.mem_cons, ← rank_injective.eq_iff]
    exact or_congr (by omega) ih

private theorem holds_union : Holds (a.union b).spans n ↔ Holds a.spans n ∨ Holds b.spans n := by
  refine holds_foldr_insert.trans (or_congr_left (and_iff_left_of_imp fun h => ?_))
  exact lt_charCount_of_holds h

@[simp] theorem contains_union :
    (a.union b).contains c = true ↔ a.contains c = true ∨ b.contains c = true := by
  simp only [contains_iff, holds_union]

private theorem holds_gaps {start : Nat} (h : Separated spans) (hstart : ∀ s ∈ spans, start ≤ s.1) :
    Holds (gaps stop start spans) n ↔ start ≤ n ∧ n < stop ∧ ¬Holds spans n := by
  induction spans generalizing start with
  | nil => simp [gaps]
  | cons s rest ih =>
    obtain ⟨first, last⟩ := s
    obtain ⟨hpair, hpos⟩ := h
    obtain ⟨hbefore, hrest⟩ := List.pairwise_cons.1 hpair
    have hfirst : start ≤ first := hstart (first, last) List.mem_cons_self
    have hspan : first < last := (hpos (first, last) List.mem_cons_self).1
    have hlater := ih ⟨hrest, fun s hs => hpos s (List.mem_cons_of_mem _ hs)⟩
      (fun s hs => Nat.le_of_lt (hbefore s hs))
    have hbelow : Holds rest n → last < n := by
      rintro ⟨s, hs, hlow, -⟩
      exact Nat.lt_of_lt_of_le (hbefore s hs) hlow
    rw [gaps, holds_cons, hlater, holds_cons]
    by_cases hn : Holds rest n
    · have hpast := hbelow hn
      simp only [hn, not_true_eq_false, or_true, and_false, or_false, Nat.lt_min, iff_false]
      omega
    · simp only [hn, not_false_eq_true, or_false, and_true, Nat.lt_min]
      omega

theorem contains_complement {count : Nat} :
    (complement count a).contains c = true ↔ ¬a.contains c = true ∧ rank c < count := by
  have hlt := rank_lt c
  rw [contains_iff, complement, holds_ofSpans, and_iff_left hlt,
    holds_gaps a.separated fun _ _ => Nat.zero_le _, contains_iff]
  exact ⟨fun h => ⟨h.2.2, h.2.1⟩, fun h => ⟨Nat.zero_le _, h.2, h.1⟩⟩

theorem contains_intersection :
    (a.intersection b).contains c = true ↔ a.contains c = true ∧ b.contains c = true := by
  have hlt := rank_lt c
  simp only [intersection, contains_complement, contains_union, and_iff_left hlt, not_or, not_not]

theorem contains_difference :
    (a.difference b).contains c = true ↔ a.contains c = true ∧ ¬b.contains c = true := by
  rw [difference, contains_intersection, contains_complement, and_iff_left (rank_lt c)]

theorem contains_symmetricDifference : (a.symmetricDifference b).contains c = true ↔
    (a.contains c = true ∧ ¬b.contains c = true) ∨ (b.contains c = true ∧ ¬a.contains c = true) := by
  rw [symmetricDifference, contains_difference, contains_union, contains_intersection]
  tauto

end Spans

section Places

variable {spans : List (Nat × Nat)} {set : CharSet} {i : Nat} {c : Char}

def total (spans : List (Nat × Nat)) : Nat :=
  (spans.map fun s => s.2 - s.1).sum

private theorem size_eq_total (set : CharSet) : set.size = total set.spans := by
  have hfold : ∀ (spans : List (Nat × Nat)) (n : Nat),
      spans.foldl (fun n s => n + (s.2 - s.1)) n = n + total spans := by
    intro spans
    induction spans with
    | nil => exact fun n => rfl
    | cons s rest ih =>
      intro n
      rw [List.foldl_cons, ih, total, total, List.map_cons, List.sum_cons, Nat.add_assoc]
  exact (hfold set.spans 0).trans (Nat.zero_add _)

private theorem total_le {start : Nat} (h : Separated spans) (hstart : ∀ s ∈ spans, start ≤ s.1)
    (hbound : start ≤ charCount) : start + total spans ≤ charCount := by
  induction spans generalizing start with
  | nil => exact hbound
  | cons s rest ih =>
    obtain ⟨hafter, hpairs⟩ := List.pairwise_cons.1 h.1
    obtain ⟨hs, hrest⟩ := List.forall_mem_cons.1 h.2
    have hfirst : start ≤ s.1 := hstart s List.mem_cons_self
    have hlater := ih ⟨hpairs, hrest⟩ (fun t ht => Nat.le_of_lt (hafter t ht)) hs.2
    rw [total, List.map_cons, List.sum_cons, ← total]
    omega

theorem size_le (set : CharSet) : set.size ≤ charCount := by
  rw [size_eq_total]
  simpa using total_le set.separated (fun s _ => Nat.zero_le s.1) (Nat.zero_le _)

private theorem exists_spanAt? (hfits : ∀ s ∈ spans, s.2 ≤ charCount) (h : i < total spans) :
    ∃ c, spanAt? spans i = some c ∧ Holds spans (rank c) := by
  induction spans generalizing i with
  | nil => cases h
  | cons s rest ih =>
    obtain ⟨low, stop⟩ := s
    rw [total, List.map_cons, List.sum_cons, ← total] at h
    unfold spanAt?
    split
    · rename_i hhere
      have hstop : stop ≤ charCount := hfits (low, stop) List.mem_cons_self
      refine ⟨_, rfl, holds_cons.2 (.inl ?_)⟩
      rw [rank_ofRank (by omega)]
      omega
    · obtain ⟨c, hc, hheld⟩ := ih (fun s hs => hfits s (List.mem_cons_of_mem _ hs))
        (i := i - (stop - low)) (by omega)
      exact ⟨c, hc, holds_cons.2 (.inr hheld)⟩

theorem exists_at? (h : i < set.size) : ∃ c, set.at? i = some c ∧ set.contains c = true := by
  rw [size_eq_total] at h
  obtain ⟨c, hc, hheld⟩ := exists_spanAt? (fun s hs => (set.separated.2 s hs).2) h
  exact ⟨c, hc, contains_iff.2 hheld⟩

end Places

end SchemaMocks.CharSet
