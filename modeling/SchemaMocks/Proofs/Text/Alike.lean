import Mathlib.Data.List.Forall2
import SchemaMocks.Proofs.Text.FoldRuns

set_option autoImplicit false
set_option relaxedAutoImplicit false

/-!
Texts that are alike under simple case folding, and the words that a text mentions: a text mentions
a word if a part of it is like the word.
-/

namespace SchemaMocks.Text

/-- Whether two texts agree character by character under simple case folding. -/
def FoldAlike (cs ds : List Char) : Prop :=
  List.Forall₂ (fun c d => fold c = fold d) cs ds

/-- Whether a part of a text is a word, up to simple case folding. -/
def Mentions (cs word : List Char) : Prop :=
  ∃ part, part <:+: cs ∧ FoldAlike part word

variable {cs ds word : List Char}

theorem foldAlike_iff : FoldAlike cs ds ↔ cs.map fold = ds.map fold := by
  rw [FoldAlike, ← List.forall₂_eq_eq_eq, List.forall₂_map_left_iff, List.forall₂_map_right_iff]

theorem mentions_iff : Mentions cs word ↔ word.map fold <:+: cs.map fold := by
  constructor
  · rintro ⟨part, hpart, halike⟩
    rw [← foldAlike_iff.1 halike]
    exact hpart.map fold
  · intro h
    obtain ⟨part, hpart, hword⟩ := List.infix_map_iff.1 h
    exact ⟨part, hpart, foldAlike_iff.2 hword.symm⟩

private theorem fold_toLower (c : Char) : fold c.toLower = fold c := by
  by_cases hascii : c.toNat < 0x80
  · have hfold : fold c = c.toLower := if_pos hascii
    rw [← hfold, fold_fold]
  · have hlower : c.toLower = c := by
      have hcapital : ¬(c.val ≥ 'A'.val ∧ c.val ≤ 'Z'.val) := by
        rintro ⟨-, hlast⟩
        have hnat : c.toNat ≤ 'Z'.toNat := UInt32.le_iff_toNat_le.1 hlast
        exact hascii (Nat.lt_of_le_of_lt hnat (by decide))
      exact dif_neg hcapital
    rw [hlower]

/-- The ASCII case of letters makes no difference to case folding. -/
theorem foldAlike_of_asciiLowered {s t : String} (h : asciiLowered s = asciiLowered t) :
    FoldAlike s.toList t.toList := by
  have hlowered : s.toList.map Char.toLower = t.toList.map Char.toLower :=
    String.ofList_injective h
  have hfold (cs : List Char) : (cs.map Char.toLower).map fold = cs.map fold := by
    rw [List.map_map]
    exact List.map_congr_left fun c _ => fold_toLower c
  rw [foldAlike_iff, ← hfold s.toList, hlowered, hfold]

end SchemaMocks.Text
