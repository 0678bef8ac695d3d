import Mathlib.Data.List.Induction
import Mathlib.Data.List.TakeWhile
import SchemaMocks.Datamodel.Basic
import SchemaMocks.Proofs.Storage.Steps
import SchemaMocks.Proofs.Text.Folding

set_option autoImplicit false
set_option relaxedAutoImplicit false

/-!
Trimmed texts and visible lines. Blanks at the ends of a text change neither what is left of it when
it is trimmed nor its visible lines, and every visible line is a part of the text.
-/

namespace SchemaMocks

namespace Text

section Trim

variable {c : Char} {cs : List Char}

theorem trimFront_cons_of_blank (hc : isBlank c = true) : trimFront (c :: cs) = trimFront cs :=
  List.dropWhile_cons_of_pos hc

theorem trimFront_cons_of_visible (hc : isBlank c = false) : trimFront (c :: cs) = c :: cs :=
  List.dropWhile_cons_of_neg (by simp [hc])

theorem trimBack_concat_of_blank (hc : isBlank c = true) : trimBack (cs ++ [c]) = trimBack cs := by
  unfold trimBack
  rw [List.reverse_append, List.reverse_singleton, List.singleton_append,
    trimFront_cons_of_blank hc]

theorem trimBack_concat_of_visible (hc : isBlank c = false) : trimBack (cs ++ [c]) = cs ++ [c] := by
  unfold trimBack
  rw [List.reverse_append, List.reverse_singleton, List.singleton_append,
    trimFront_cons_of_visible hc, List.reverse_cons, List.reverse_reverse]

private theorem trim_cons_of_blank (hc : isBlank c = true) : trim (c :: cs) = trim cs := by
  unfold trim
  rw [trimFront_cons_of_blank hc]

private theorem trim_concat_of_blank (hc : isBlank c = true) : trim (cs ++ [c]) = trim cs := by
  induction cs with
  | nil => exact trim_cons_of_blank hc
  | cons d rest ih =>
    cases hd : isBlank d with
    | true =>
      rw [List.cons_append, trim_cons_of_blank hd, trim_cons_of_blank hd]
      exact ih
    | false =>
      unfold trim
      rw [List.cons_append, trimFront_cons_of_visible hd, trimFront_cons_of_visible hd,
        ← List.cons_append]
      exact trimBack_concat_of_blank hc

private theorem eq_of_padded {α : Type} {f : List Char → α} {front back : List Char}
    (hcons : ∀ c cs, isBlank c = true → f (c :: cs) = f cs)
    (hconcat : ∀ c cs, isBlank c = true → f (cs ++ [c]) = f cs)
    (hfront : ∀ c ∈ front, isBlank c = true) (hback : ∀ c ∈ back, isBlank c = true) :
    f (front ++ cs ++ back) = f cs := by
  have hend : f (cs ++ back) = f cs := by
    induction back using List.reverseRecOn with
    | nil => rw [List.append_nil]
    | append_singleton back c ih =>
      rw [← List.append_assoc, hconcat c _ (hback c (by simp))]
      exact ih fun d hd => hback d (List.mem_append_left [c] hd)
  rw [List.append_assoc, ← hend]
  induction front with
  | nil => rfl
  | cons c front ih =>
    rw [List.cons_append, hcons c _ (hfront c List.mem_cons_self)]
    exact ih fun d hd => hfront d (List.mem_cons_of_mem c hd)

theorem trim_padded {front back : List Char} (hfront : ∀ c ∈ front, isBlank c = true)
    (hback : ∀ c ∈ back, isBlank c = true) : trim (front ++ cs ++ back) = trim cs :=
  eq_of_padded (fun _ _ => trim_cons_of_blank) (fun _ _ => trim_concat_of_blank) hfront hback

theorem trim_of_visible_ends {d : Char} (hc : isBlank c = false) (hd : isBlank d = false)
    (middle : List Char) : trim (c :: (middle ++ [d])) = c :: (middle ++ [d]) := by
  unfold trim
  rw [trimFront_cons_of_visible hc, ← List.cons_append]
  exact trimBack_concat_of_visible hd

theorem infix_of_trim (cs : List Char) : trim cs <:+: cs := by
  have hback : trimBack (trimFront cs) <+: trimFront cs := by
    have hsuffix : trimFront (trimFront cs).reverse <:+ (trimFront cs).reverse :=
      List.dropWhile_suffix _
    have hprefix := List.reverse_prefix.2 hsuffix
    rwa [List.reverse_reverse] at hprefix
  have hfront : trimFront cs <:+ cs := List.dropWhile_suffix _
  exact hback.isInfix.trans hfront.isInfix

private theorem visible_of_trim_concat_eq (h : trim (cs ++ [c]) = cs ++ [c]) :
    isBlank c = false := by
  by_contra hblank
  have hshort : (trim cs).length ≤ cs.length := (infix_of_trim cs).length_le
  rw [Bool.not_eq_false] at hblank
  rw [← trim_concat_of_blank hblank, h, List.length_append, List.length_singleton] at hshort
  omega

theorem trim_append_of_trim_eq {d : Char} (hd : isBlank d = false) (front : List Char)
    (htrim : trim cs = cs) (hne : cs ≠ []) : trim (d :: (front ++ cs)) = d :: (front ++ cs) := by
  obtain hnil | ⟨init, last, rfl⟩ := List.eq_nil_or_concat cs
  · exact absurd hnil hne
  · rw [List.concat_eq_append] at htrim ⊢
    rw [← List.append_assoc]
    exact trim_of_visible_ends hd (visible_of_trim_concat_eq htrim) _

theorem isBlankText_iff {s : String} : isBlankText s = true ↔ trimmed s = "" := by
  have hnil : trimmed s = "" ↔ trim s.toList = [] := by
    rw [trimmed, ← String.toList_inj, String.toList_ofList, String.toList_empty]
  rw [hnil, isBlankText, List.all_eq_true]
  constructor
  · exact trim_eq_nil
  · intro h
    rw [trim, trimBack, trimFront, List.reverse_eq_nil_iff, List.dropWhile_eq_nil_iff] at h
    simp only [List.mem_reverse] at h
    have hfront : s.toList.dropWhile isBlank = [] := by
      by_contra hrest
      have hhead := List.head_dropWhile_not isBlank hrest
      rw [h _ (List.head_mem hrest)] at hhead
      cases hhead
    exact List.dropWhile_eq_nil_iff.1 hfront

end Trim

section Pieces

variable {sep : Char} {cs piece : List Char}

theorem map_trim_pieces_cons_of_blank {c : Char} (hc : isBlank c = true) (hsep : c ≠ sep) :
    (pieces sep (c :: cs)).map trim = (pieces sep cs).map trim := by
  rw [pieces, if_neg hsep]
  cases hpieces : pieces sep cs with
  | nil => exact absurd hpieces (pieces_ne_nil sep cs)
  | cons piece more => simp only [List.map_cons, trim_cons_of_blank hc]

private theorem infix_of_mem_pieces (h : piece ∈ pieces sep cs) : piece <:+: cs := by
  suffices hhead : ∀ first more, pieces sep cs = first :: more →
      first <+: cs ∧ ∀ piece ∈ more, piece <:+: cs by
    cases hpieces : pieces sep cs with
    | nil => exact absurd hpieces (pieces_ne_nil sep cs)
    | cons first more =>
      obtain ⟨hfirst, hmore⟩ := hhead first more hpieces
      rw [hpieces] at h
      rcases List.mem_cons.1 h with rfl | h
      · exact hfirst.isInfix
      · exact hmore piece h
  clear h
  induction cs with
  | nil =>
    intro first more heq
    cases heq
    exact ⟨List.nil_prefix, by simp⟩
  | cons c rest ih =>
    intro first more heq
    rw [pieces] at heq
    split at heq
    · obtain ⟨rfl, rfl⟩ := List.cons.inj heq
      refine ⟨List.nil_prefix, ?_⟩
      intro piece hpiece
      cases hrest : pieces sep rest with
      | nil => exact absurd hrest (pieces_ne_nil sep rest)
      | cons next more =>
        obtain ⟨hnext, hmore⟩ := ih next more hrest
        rw [hrest] at hpiece
        rcases List.mem_cons.1 hpiece with rfl | hpiece
        · exact hnext.isInfix.trans (List.suffix_cons c rest).isInfix
        · exact (hmore piece hpiece).trans (List.suffix_cons c rest).isInfix
    · split at heq
      · rename_i hnone
        exact absurd hnone (pieces_ne_nil sep rest)
      · rename_i next more' hrest
        obtain ⟨rfl, rfl⟩ := List.cons.inj heq
        obtain ⟨hnext, hmore⟩ := ih next more' hrest
        refine ⟨List.cons_prefix_cons.2 ⟨rfl, hnext⟩, ?_⟩
        intro piece hpiece
        exact (hmore piece hpiece).trans (List.suffix_cons c rest).isInfix

end Pieces

/-- A text that is a line of its own: trimmed, not empty, without line breaks. -/
structure IsLine (cs : List Char) : Prop where
  ne_nil : cs ≠ []
  trimmed : trim cs = cs
  unbroken : '\n' ∉ cs

def visibleLines (cs : List Char) : List (List Char) :=
  ((pieces '\n' cs).map trim).filter fun line => !line.isEmpty

section Lines

variable {c : Char} {cs line : List Char}

private theorem visibleLines_between (front back : List Char) :
    visibleLines (front ++ '\n' :: back) = visibleLines front ++ visibleLines back := by
  simp only [visibleLines, pieces_between, List.map_append, List.filter_append]

private theorem visibleLines_nil : visibleLines [] = [] := rfl

private theorem visibleLines_cons_of_blank (hc : isBlank c = true) :
    visibleLines (c :: cs) = visibleLines cs := by
  by_cases hbreak : c = '\n'
  · subst hbreak
    exact visibleLines_between [] cs
  · unfold visibleLines
    rw [map_trim_pieces_cons_of_blank hc hbreak]

private theorem visibleLines_concat_of_blank (hc : isBlank c = true) :
    visibleLines (cs ++ [c]) = visibleLines cs := by
  by_cases hbreak : c = '\n'
  · subst hbreak
    rw [visibleLines_between, visibleLines_nil, List.append_nil]
  · obtain hnone | ⟨init, last, hpieces⟩ := List.eq_nil_or_concat (pieces '\n' cs)
    · exact absurd hnone (pieces_ne_nil '\n' cs)
    · rw [List.concat_eq_append] at hpieces
      have hback : '\n' ∉ [c] := by simpa using Ne.symm hbreak
      unfold visibleLines
      rw [pieces_append_of_notMem hback hpieces, hpieces]
      simp only [List.map_append, List.map_cons, List.map_nil, trim_concat_of_blank hc]

theorem visibleLines_padded {front back : List Char} (hfront : ∀ c ∈ front, isBlank c = true)
    (hback : ∀ c ∈ back, isBlank c = true) :
    visibleLines (front ++ cs ++ back) = visibleLines cs :=
  eq_of_padded (fun _ _ => visibleLines_cons_of_blank) (fun _ _ => visibleLines_concat_of_blank)
    hfront hback

theorem IsLine.visibleLines_eq (h : IsLine cs) : visibleLines cs = [cs] := by
  unfold visibleLines
  rw [pieces_of_notMem h.unbroken, List.map_singleton, h.trimmed]
  exact List.filter_cons_of_pos (by simpa using h.ne_nil)

theorem visibleLines_joined (texts : List String) (last : String) :
    visibleLines ("\n".intercalate (texts ++ [last])).toList =
      texts.flatMap (visibleLines ·.toList) ++ visibleLines last.toList := by
  induction texts with
  | nil => simp
  | cons text texts ih =>
    have hjoined : ("\n".intercalate (text :: texts ++ [last])).toList =
        text.toList ++ '\n' :: ("\n".intercalate (texts ++ [last])).toList := by
      cases texts <;> simp
    rw [hjoined, visibleLines_between, ih, List.flatMap_cons, List.append_assoc]

theorem infix_of_mem_visibleLines (h : line ∈ visibleLines cs) : line <:+: cs := by
  obtain ⟨piece, hpiece, rfl⟩ := List.mem_map.1 (List.mem_filter.1 h).1
  exact (infix_of_trim piece).trans (infix_of_mem_pieces hpiece)

end Lines

section Infix

variable {needle front back : List Char} {c : Char}

theorem infix_of_append_left (hc : c ∉ front) (h : c :: needle <:+: front ++ back) :
    c :: needle <:+: back := by
  induction front with
  | nil => exact h
  | cons d front ih =>
    simp only [List.mem_cons, not_or] at hc
    rcases List.infix_cons_iff.1 h with hprefix | hrest
    · exact absurd (List.cons_prefix_cons.1 hprefix).1 hc.1
    · exact ih hc.2 hrest

theorem infix_of_between (hc : c ∉ needle) (h : needle <:+: front ++ c :: back) :
    needle <:+: front ∨ needle <:+: back := by
  rcases List.infix_append_iff.1 h with hfront | hback | ⟨first, last, rfl, hfirst, hlast⟩
  · exact .inl hfront
  · rcases List.infix_cons_iff.1 hback with hprefix | hback
    · cases needle with
      | nil => exact .inr List.nil_infix
      | cons d needle =>
        exact absurd ((List.cons_prefix_cons.1 hprefix).1 ▸ List.mem_cons_self) hc
    · exact .inr hback
  · cases last with
    | nil =>
      rw [List.append_nil]
      exact .inl hfirst.isInfix
    | cons d last =>
      rw [(List.cons_prefix_cons.1 hlast).1] at hc
      exact absurd (List.mem_append_right first List.mem_cons_self) hc

theorem infix_of_behind (hc : c ∉ needle) (hne : needle ≠ []) (h : needle <:+: c :: back) :
    needle <:+: back := by
  have hempty : needle <:+: [] ++ c :: back := h
  rcases infix_of_between hc hempty with hnil | hback
  · exact absurd (List.infix_nil.1 hnil) hne
  · exact hback

theorem infix_of_enclosed (hc : c ∉ needle) (hne : needle ≠ [])
    (h : needle <:+: c :: (front ++ [c])) : needle <:+: front := by
  rcases infix_of_between hc (infix_of_behind hc hne h) with hfront | hnil
  · exact hfront
  · exact absurd (List.infix_nil.1 hnil) hne

end Infix

end Text

theorem Field.documentationLines_eq (field : Field) :
    field.documentationLines =
      (Text.visibleLines (field.documentation.getD "").toList).map String.ofList :=
  rfl

end SchemaMocks
