import SchemaMocks.Proofs.Pattern.Classes
import SchemaMocks.Proofs.Pattern.Languages
import SchemaMocks.Proofs.Pattern.Orderly

set_option autoImplicit false
set_option relaxedAutoImplicit false

/-!
The reduced form of an orderly pattern is orderly as well, and the texts of its language match the
pattern.
-/

namespace SchemaMocks

namespace Reduced

inductive Orderly : Reduced → Prop where
  | empty : Orderly empty
  | text (cs : List Char) : Orderly (text cs)
  | oneOf (chars : CharSet) : Orderly (oneOf chars)
  | look : Orderly look
  | repeated {body : Reduced} {min : Nat} {max : Option Nat} (greedy : Bool)
      (bounds : max.all (min ≤ ·) = true) (body_orderly : Orderly body) :
      Orderly (repeated body min max greedy)
  | capture {body : Reduced} (index : Nat) (body_orderly : Orderly body) :
      Orderly (capture index body)
  | sequence {parts : List Reduced} (parts_orderly : ∀ part ∈ parts, Orderly part) :
      Orderly (sequence parts)
  | choice {branches : List Reduced} (nonempty : branches ≠ [])
      (branches_orderly : ∀ branch ∈ branches, Orderly branch) : Orderly (choice branches)

variable {r : Reduced} {items : List Reduced} {min : Nat} {max : Option Nat}

private theorem orderly_ofSet (set : CharSet) : Orderly (ofSet set) := by
  unfold ofSet
  split
  · exact .text _
  · exact .oneOf _

private theorem orderly_ofRepeated (greedy : Bool) (hbounds : max.all (min ≤ ·) = true)
    (h : r.Orderly) :
    Orderly (ofRepeated r min max greedy) := by
  rcases ofRepeated_cases r min max greedy with ⟨hr, -⟩ | ⟨hr, -⟩ | hr
  · exact hr ▸ .empty
  · exact hr.symm ▸ h
  · exact hr ▸ .repeated greedy (boundsOf_in_order r hbounds) h

private theorem parts_cases (r : Reduced) : r = sequence r.parts ∨ r.parts = [r] := by
  cases r with
  | sequence parts => exact .inl rfl
  | _ => exact .inr rfl

private theorem Orderly.parts (h : r.Orderly) : ∀ part ∈ r.parts, part.Orderly := by
  rcases parts_cases r with hr | hr
  · rw [hr] at h
    cases h with
    | sequence hparts => exact hparts
  · rw [hr]
    exact List.forall_mem_singleton.2 h

private theorem orderly_joinTexts (h : ∀ item ∈ items, item.Orderly) :
    ∀ item ∈ joinTexts items, item.Orderly := by
  fun_induction joinTexts items with
  | case1 => exact h
  | case2 rest ih => exact ih (List.forall_mem_cons.1 h).2
  | case3 cs rest ds more hjoined ih =>
    rw [hjoined] at ih
    exact List.forall_mem_cons.2
      ⟨.text _, (List.forall_mem_cons.1 (ih (List.forall_mem_cons.1 h).2)).2⟩
  | case4 cs rest hother ih =>
    exact List.forall_mem_cons.2 ⟨.text _, ih (List.forall_mem_cons.1 h).2⟩
  | case5 part rest hempty htext ih =>
    obtain ⟨hpart, hrest⟩ := List.forall_mem_cons.1 h
    exact List.forall_mem_cons.2 ⟨hpart, ih hrest⟩

private theorem orderly_ofSequence (h : ∀ item ∈ items, item.Orderly) :
    Orderly (ofSequence items) := by
  have hparts : ∀ part ∈ joinTexts (items.flatMap Reduced.parts), part.Orderly := by
    refine orderly_joinTexts fun part hpart => ?_
    obtain ⟨item, hitem, hpart⟩ := List.mem_flatMap.1 hpart
    exact (h item hitem).parts part hpart
  unfold ofSequence
  split
  · exact .empty
  · rename_i part hsingle
    exact hparts part (hsingle ▸ List.mem_singleton_self part)
  · exact .sequence hparts

private theorem branches_cases (r : Reduced) : r = choice r.branches ∨ r.branches = [r] := by
  cases r with
  | choice branches => exact .inl rfl
  | _ => exact .inr rfl

private theorem Orderly.branches (h : r.Orderly) :
    r.branches ≠ [] ∧ ∀ branch ∈ r.branches, branch.Orderly := by
  rcases branches_cases r with hr | hr
  · rw [hr] at h
    cases h with
    | choice hsome hbranches => exact ⟨hsome, hbranches⟩
  · rw [hr]
    exact ⟨List.cons_ne_nil r [], List.forall_mem_singleton.2 h⟩

private theorem orderly_choiceWithin (fuel : Nat) (hsome : items ≠ [])
    (h : ∀ item ∈ items, item.Orderly) :
    Orderly (choiceWithin fuel items) := by
  induction fuel generalizing items with
  | zero => exact .choice hsome h
  | succ fuel ih =>
    have hbranches : ∀ branch ∈ items.flatMap Reduced.branches, branch.Orderly := by
      intro branch hbranch
      obtain ⟨item, hitem, hbranch⟩ := List.mem_flatMap.1 hbranch
      exact (h item hitem).branches.2 branch hbranch
    have hwhole : Orderly (choice (items.flatMap Reduced.branches)) := by
      refine .choice ?_ hbranches
      obtain ⟨item, hitem⟩ := List.exists_mem_of_ne_nil items hsome
      obtain ⟨branch, hbranch⟩ := List.exists_mem_of_ne_nil _ (h item hitem).branches.1
      exact List.ne_nil_of_mem (List.mem_flatMap.2 ⟨item, hitem, hbranch⟩)
    unfold choiceWithin
    split
    · rename_i branch hsingle
      exact hbranches branch (hsingle ▸ List.mem_singleton_self branch)
    · dsimp only
      split
      · exact orderly_ofSet _
      · exact orderly_ofSet _
      · rename_i sequences _ _ hsequences
        split
        · exact hwhole
        · -- the front comes from the first sequence, and each sequence leaves a rest
          rename_i hfront
          have hparts : ∀ parts ∈ sequences, ∀ part ∈ parts, part.Orderly := by
            intro parts hparts part hpart
            obtain ⟨branch, hbranch, hsequence⟩ := exists_of_mapM hsequences hparts
            have hordered := (hbranches branch hbranch).parts
            rw [eq_sequence_of_sequenceParts? hsequence] at hordered
            exact hordered part hpart
          obtain ⟨first, hfirst⟩ : ∃ first, first ∈ sequences := by
            refine List.exists_mem_of_ne_nil sequences fun hnone => hfront ?_
            rw [hnone]
            rfl
          have hrests : ∀ rest ∈ sequences.map fun parts =>
              ofSequence (parts.drop (sharedFront sequences).length), rest.Orderly := by
            intro rest hrest
            obtain ⟨parts, hmem, rfl⟩ := List.mem_map.1 hrest
            exact orderly_ofSequence fun part hpart =>
              hparts parts hmem part (List.mem_of_mem_drop hpart)
          refine orderly_ofSequence (List.forall_mem_append.2 ⟨fun part hpart => ?_, ?_⟩)
          · exact hparts first hfirst part ((sharedFront_isPrefix hfirst).subset hpart)
          · exact List.forall_mem_singleton.2
              (ih (List.ne_nil_of_mem (List.mem_map_of_mem hfirst)) hrests)
      · exact hwhole

end Reduced

namespace Pattern

variable {p : Pattern} {w : List Char}

private theorem allReduced_eq_map (parts : List Pattern) :
    allReduced parts = parts.map reduced := by
  induction parts with
  | nil => rfl
  | cons part rest ih => rw [allReduced, ih, List.map_cons]

/-- The reduced form of an orderly pattern is orderly. -/
theorem Orderly.reduced (h : p.Orderly) : p.reduced.Orderly := by
  induction h with
  | empty => exact .empty
  | char rule c => exact Reduced.orderly_ofSet _
  | oneOf chars => exact Reduced.orderly_ofSet _
  | bracket mode negated body => exact Reduced.orderly_ofSet _
  | look => exact .look
  | sequence _ ih =>
    rw [Pattern.reduced, allReduced_eq_map]
    exact Reduced.orderly_ofSequence (List.forall_mem_map.2 ih)
  | choice hsome _ ih =>
    rw [Pattern.reduced, allReduced_eq_map]
    exact Reduced.orderly_choiceWithin _ (by simpa using hsome) (List.forall_mem_map.2 ih)
  | repeated greedy hbounds _ ih => exact Reduced.orderly_ofRepeated greedy hbounds ih
  | group index _ ih =>
    cases index with
    | none => exact ih
    | some index => exact .capture index ih

private theorem matches_sequence {parts : List Pattern}
    (hparts : ∀ part ∈ parts, ∀ w ∈ part.reduced.language, part.Matches w)
    (h : w ∈ Reduced.productOf (parts.map Pattern.reduced)) : (sequence parts).Matches w := by
  induction parts generalizing w with
  | nil =>
    obtain rfl : w = [] := h
    exact .sequenceNil
  | cons part rest ih =>
    obtain ⟨hpart, hrest⟩ := List.forall_mem_cons.1 hparts
    obtain ⟨u, hu, v, hv, rfl⟩ := Language.mem_mul.1 h
    exact .sequenceCons (hpart u hu) (ih hrest hv)

private theorem matches_repeated {body : Pattern} {l : Language Char} {min : Nat} {max : Option Nat}
    {greedy : Bool} (hbody : ∀ w ∈ l, body.Matches w) (h : w ∈ Reduced.powersOf l min max) :
    (repeated body min max greedy).Matches w := by
  obtain ⟨n, hmin, hmax, hw⟩ := h
  induction n generalizing min max w with
  | zero =>
    obtain rfl : w = [] := hw
    rw [Nat.le_zero.1 hmin]
    exact .repeatedNil
  | succ n ih =>
    rw [pow_succ'] at hw
    obtain ⟨u, hu, v, hv, rfl⟩ := Language.mem_mul.1 hw
    refine .repeatedCons ?_ (hbody u hu) (ih (by omega) ?_ hv)
    · intro hnone
      exact Nat.not_succ_le_zero n (hmax 0 hnone)
    · intro m hm
      obtain ⟨k, rfl, rfl⟩ := Option.map_eq_some_iff.1 hm
      have hk := hmax k rfl
      omega

/-- The texts of the reduced form match the pattern. -/
theorem Orderly.matches_of_mem_language (h : p.Orderly) (hw : w ∈ p.reduced.language) :
    p.Matches w := by
  induction h generalizing w with
  | empty =>
    obtain rfl : w = [] := hw
    exact .empty
  | char rule c =>
    obtain ⟨d, hd, rfl⟩ := Reduced.language_ofSet_le _ hw
    exact .char (CaseRule.fold_of_mem_siblings hd)
  | oneOf chars =>
    obtain ⟨d, hd, rfl⟩ := Reduced.language_ofSet_le _ hw
    exact .oneOf hd
  | bracket mode negated body =>
    obtain ⟨d, hd, rfl⟩ := Reduced.language_ofSet_le _ hw
    exact .bracket ((ClassExpr.contains_toSet _ d).1 hd)
  | look => exact absurd hw (Language.notMem_zero w)
  | sequence _ ih =>
    rw [Pattern.reduced, allReduced_eq_map, Reduced.language_ofSequence] at hw
    exact matches_sequence (fun part hpart w hw => ih part hpart hw) hw
  | choice _ _ ih =>
    rw [Pattern.reduced, allReduced_eq_map] at hw
    obtain ⟨item, hitem, hw⟩ := Reduced.mem_sumOf.1 (Reduced.mem_sumOf_of_choiceWithin _ _ hw)
    obtain ⟨branch, hbranch, rfl⟩ := List.mem_map.1 hitem
    exact .choice hbranch (ih branch hbranch hw)
  | repeated greedy hbounds _ ih =>
    exact matches_repeated (fun w hw => ih hw) (Reduced.language_ofRepeated_le _ greedy hbounds hw)
  | group index _ ih =>
    refine .group (ih ?_)
    cases index with
    | none => exact hw
    | some index => exact hw

end Pattern

end SchemaMocks
