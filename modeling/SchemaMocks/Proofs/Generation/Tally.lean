import Mathlib.Data.List.Induction
import SchemaMocks.Generation.Report

set_option autoImplicit false
set_option relaxedAutoImplicit false

/-!
Tallies. Each step of a tally counts one occurrence more, so that a label has the number of its
occurrences, if there are any, and the numbers add up to the number of all occurrences.
-/

namespace SchemaMocks

namespace Entries

/-- The numbers of a list of entries, added up. -/
def total (entries : List (String × Nat)) : Nat :=
  entries.foldr (fun entry n => entry.2 + n) 0

private theorem get?_eq_none_of_lt {α : Type} {key : String} {entries : List (String × α)}
    (h : ∀ entry ∈ entries, key < entry.1) : get? key entries = none := by
  rw [get?_eq_none_iff, List.mem_map]
  rintro ⟨entry, hentry, rfl⟩
  exact String.lt_irrefl _ (h entry hentry)

private theorem total_put (key : String) (value : Nat) {entries : List (String × Nat)}
    (h : Ascending entries) :
    total (put key value entries) + (get? key entries).getD 0 = total entries + value := by
  induction entries with
  | nil => simp [put, get?, total]
  | cons entry rest ih =>
    obtain ⟨k, n⟩ := entry
    obtain ⟨hleast, hrest⟩ := List.pairwise_cons.1 h
    have hstep := ih hrest
    simp only [total, List.foldr_cons] at hstep ⊢
    rw [put]
    split
    · rename_i hlt
      have hnone : get? key ((k, n) :: rest) = none := by
        refine get?_eq_none_of_lt fun entry hentry => ?_
        rcases List.mem_cons.1 hentry with rfl | hentry
        · exact hlt
        · exact String.lt_trans hlt (hleast entry hentry)
      rw [hnone, List.foldr_cons, List.foldr_cons, Option.getD_none]
      omega
    · split
      · rename_i heq
        rw [get?, if_pos heq, List.foldr_cons, Option.getD_some]
        omega
      · rename_i hne
        rw [get?, if_neg hne, List.foldr_cons]
        omega

end Entries

namespace Dictionary

def total (d : Dictionary Nat) : Nat :=
  Entries.total d.entries

private theorem total_insert (d : Dictionary Nat) (key : String) (value : Nat) :
    (d.insert key value).total + (d.get? key).getD 0 = d.total + value :=
  Entries.total_put key value d.ascending

end Dictionary

namespace GenerationReport

private theorem tally_concat (labels : List String) (label : String) :
    tally (labels ++ [label]) =
      (tally labels).insert label (((tally labels).get? label).getD 0 + 1) := by
  rw [tally, List.foldl_append]
  rfl

private theorem getD_of_count {label : String} {labels : List String} {number : Option Nat}
    (h : number = if labels.count label = 0 then none else some (labels.count label)) :
    number.getD 0 = labels.count label := by
  rw [h]
  split <;> simp [*]

private theorem get?_tally (labels : List String) (label : String) :
    (tally labels).get? label =
      if labels.count label = 0 then none else some (labels.count label) := by
  induction labels using List.reverseRecOn with
  | nil => rfl
  | append_singleton labels last ih =>
    rw [tally_concat, Dictionary.get?_insert, List.count_append, List.count_singleton]
    by_cases h : last = label
    · subst h
      simp [getD_of_count ih]
    · simp [h, ih]

theorem getD_tally (labels : List String) (label : String) :
    ((tally labels).get? label).getD 0 = labels.count label :=
  getD_of_count (get?_tally labels label)

theorem get?_tally_eq_some_iff {labels : List String} {label : String} {n : Nat} :
    (tally labels).get? label = some n ↔ 0 < n ∧ labels.count label = n := by
  rw [get?_tally]
  split
  · rename_i hzero
    rw [hzero]
    simp only [reduceCtorEq, false_iff, not_and]
    exact fun hpos h => absurd hpos (h ▸ Nat.lt_irrefl 0)
  · rename_i hcount
    rw [Option.some.injEq]
    exact ⟨fun h => ⟨h ▸ Nat.pos_of_ne_zero hcount, h⟩, fun h => h.2⟩

theorem mem_keys_tally {labels : List String} {label : String} :
    label ∈ (tally labels).keys ↔ label ∈ labels := by
  rw [Dictionary.mem_keys, get?_tally, ← List.count_pos_iff]
  split
  · simp [*]
  · rename_i hcount
    simp [Nat.pos_of_ne_zero hcount]

theorem total_tally (labels : List String) : (tally labels).total = labels.length := by
  induction labels using List.reverseRecOn with
  | nil => rfl
  | append_singleton labels last ih =>
    have hstep := (tally labels).total_insert last (((tally labels).get? last).getD 0 + 1)
    rw [tally_concat, List.length_append, List.length_singleton]
    omega

end GenerationReport

end SchemaMocks
