import SchemaMocks.Pattern.Basic
import SchemaMocks.Proofs.Pattern.Sets
import SchemaMocks.Proofs.Text.FoldRuns

set_option autoImplicit false
set_option relaxedAutoImplicit false

/-!
The characters of classes. A closed set holds the characters that count as the same as one of its
own, and the set of a class holds what the class accepts.
-/

namespace SchemaMocks

section Letters

variable {c : Char}

private theorem toLower_of_not_isUpper (h : c.isUpper = false) : c.toLower = c :=
  dif_neg (of_decide_eq_false h)

private theorem toLower_eq_and_toUpper_eq (h : 0x80 ≤ c.toNat) : c.toLower = c ∧ c.toUpper = c := by
  have hlow : ∀ a : Char, a.toNat < 0x80 → ¬c.val ≤ a.val := fun a ha hle =>
    absurd (UInt32.le_iff_toNat_le.1 hle) (Nat.not_le.2 (Nat.lt_of_lt_of_le ha h))
  exact ⟨dif_neg fun hc => hlow 'Z' (by decide) hc.2, dif_neg fun hc => hlow 'z' (by decide) hc.2⟩

private theorem toLower_of_cased (c : Char) :
    c.toLower.toLower = c.toLower ∧ c.toUpper.toLower = c.toLower := by
  rcases Nat.lt_or_ge c.toNat 0x80 with hascii | hbeyond
  · have hall : ∀ n < 0x80, (Char.ofNat n).toLower.toLower = (Char.ofNat n).toLower ∧
        (Char.ofNat n).toUpper.toLower = (Char.ofNat n).toLower := by
      decide +kernel
    have hc := hall c.toNat hascii
    rwa [Char.ofNat_toNat] at hc
  · obtain ⟨hlower, hupper⟩ := toLower_eq_and_toUpper_eq hbeyond
    rw [hupper, hlower, hlower]
    exact ⟨rfl, rfl⟩

end Letters

namespace CaseRule

variable {rule : CaseRule} {set : CharSet} {c d : Char}

private theorem fold_fold (rule : CaseRule) (c : Char) : rule.fold (rule.fold c) = rule.fold c := by
  cases rule with
  | exact => rfl
  | ascii => exact (toLower_of_cased c).1
  | unicode => exact Text.fold_fold c

private theorem fold_of_notMem_variants (h : c ∉ rule.variants) : rule.fold c = c := by
  cases rule with
  | exact => rfl
  | ascii =>
    refine toLower_of_not_isUpper (Bool.eq_false_iff.2 fun hupper => h ?_)
    obtain ⟨hfirst, hlast⟩ : 0x41 ≤ c.toNat ∧ c.toNat ≤ 0x5A := of_decide_eq_true hupper
    refine List.mem_map.2 ⟨c.toNat - 0x41, List.mem_range.2 (by omega), ?_⟩
    rw [Nat.add_sub_of_le hfirst, Char.ofNat_toNat]
  | unicode =>
    refine Text.fold_of_not_covers fun run hrun => Bool.eq_false_iff.2 fun hcovers => h ?_
    have hmember := List.mem_map_of_mem (f := Char.ofNat) (Text.CaseRun.mem_members_of_covers hcovers)
    rw [Char.ofNat_toNat, Text.CaseRun.members, List.map_map] at hmember
    exact List.mem_flatten.2 ⟨_, List.mem_map_of_mem hrun, hmember⟩

private theorem contains_close : (rule.close set).contains c = true ↔
    ∃ d, rule.fold d = rule.fold c ∧ set.contains d = true := by
  unfold close
  set folded := CharSet.ofChars ((rule.variants.filter set.contains).map rule.fold) with hfolded
  have hmem : ∀ e, folded.contains e = true ↔
      ∃ d ∈ rule.variants, set.contains d = true ∧ rule.fold d = e := by
    intro e
    simp [hfolded, CharSet.contains_ofChars, and_assoc]
  -- what is grown holds the folding of every character of the set
  have hgrown : ∀ d, set.contains d = true → (set.union folded).contains (rule.fold d) = true := by
    intro d hd
    by_cases hvariant : d ∈ rule.variants
    · exact CharSet.contains_union.2 (.inr ((hmem _).2 ⟨d, hvariant, hd, rfl⟩))
    · rw [fold_of_notMem_variants hvariant]
      exact CharSet.contains_union.2 (.inl hd)
  have hsound : ∀ e, (set.union folded).contains e = true →
      ∃ d, rule.fold d = rule.fold e ∧ set.contains d = true := by
    intro e he
    rcases CharSet.contains_union.1 he with he | he
    · exact ⟨e, rfl, he⟩
    · obtain ⟨d, -, hd, rfl⟩ := (hmem e).1 he
      exact ⟨d, (fold_fold rule d).symm, hd⟩
  rw [CharSet.contains_union, CharSet.contains_ofChars, List.mem_filter]
  constructor
  · rintro (hc | ⟨-, hc⟩)
    · exact hsound c hc
    · obtain ⟨d, hfold, hd⟩ := hsound _ hc
      exact ⟨d, hfold.trans (fold_fold rule c), hd⟩
  · rintro ⟨d, hfold, hd⟩
    have hc := hgrown d hd
    rw [hfold] at hc
    by_cases hvariant : c ∈ rule.variants
    · exact .inr ⟨hvariant, hc⟩
    · rw [fold_of_notMem_variants hvariant] at hc
      exact .inl hc

theorem fold_of_mem_siblings (h : (rule.siblings c).contains d = true) :
    rule.fold d = rule.fold c := by
  rcases List.mem_cons.1 (CharSet.contains_ofChars.1 h) with rfl | hd
  · exact fold_fold rule c
  · rw [← fold_fold rule c]
    cases rule with
    | exact => cases hd
    | ascii =>
      rw [List.mem_singleton.1 hd]
      exact (toLower_of_cased _).2
    | unicode => exact Text.fold_of_mem_foldSiblings hd

end CaseRule

variable {mode : ClassMode} {set a b : CharSet} {c : Char}

private theorem ClassOperation.contains_apply {operation : ClassOperation} :
    (operation.apply a b).contains c = true ↔
      operation.holds (a.contains c = true) (b.contains c = true) := by
  cases operation with
  | intersection => exact CharSet.contains_intersection
  | difference => exact CharSet.contains_difference
  | symmetricDifference => exact CharSet.contains_symmetricDifference

namespace ClassExpr

mutual

theorem contains_toSet (e : ClassExpr) (c : Char) :
    (e.toSet mode).contains c = true ↔ e.Accepts mode c := by
  cases e with
  | chars set => exact Iff.rfl
  | union items => exact contains_unionOf items c
  | bracket negated body =>
    have hheld : (mode.rule.close (body.toSet mode)).contains c = true ↔
        ∃ d, mode.rule.fold d = mode.rule.fold c ∧ body.Accepts mode d := by
      simp only [CaseRule.contains_close, contains_toSet body]
    unfold toSet ClassMode.finish Accepts
    cases negated with
    | false => exact hheld
    | true => exact CharSet.contains_complement.trans (and_congr_left' (not_congr hheld))
  | combined operation left right =>
    simp only [toSet, Accepts, ClassOperation.contains_apply, CaseRule.contains_close,
      contains_toSet left, contains_toSet right]

theorem contains_unionOf (items : List ClassExpr) (c : Char) :
    (unionOf mode items).contains c = true ↔ AcceptsAny mode items c := by
  cases items with
  | nil => exact iff_of_false (by simp [unionOf, CharSet.contains_empty]) id
  | cons item rest =>
    rw [unionOf, CharSet.contains_union, AcceptsAny, contains_toSet item, contains_unionOf rest]

end

end ClassExpr

end SchemaMocks
