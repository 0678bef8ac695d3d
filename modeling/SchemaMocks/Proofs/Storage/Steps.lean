import SchemaMocks.Proofs.Layout.Modules

set_option autoImplicit false
set_option relaxedAutoImplicit false

/-!
The steps of paths. A path below a directory has the steps of the directory and then its own, and a
path that is put together from steps has these steps again.
-/

namespace SchemaMocks

namespace Text

theorem pieces_between (sep : Char) (front back : List Char) :
    pieces sep (front ++ sep :: back) = pieces sep front ++ pieces sep back := by
  induction front with
  | nil => simp [pieces]
  | cons c rest ih =>
    rw [List.cons_append, pieces, pieces, ih]
    by_cases hc : c = sep
    · rw [if_pos hc, if_pos hc, List.cons_append]
    · rw [if_neg hc, if_neg hc]
      cases hpieces : pieces sep rest with
      | nil => exact absurd hpieces (pieces_ne_nil sep rest)
      | cons piece more => rfl

theorem pieces_append_of_notMem {sep : Char} {front back last : List Char}
    {init : List (List Char)} (hback : sep ∉ back) (hfront : pieces sep front = init ++ [last]) :
    pieces sep (front ++ back) = init ++ [last ++ back] := by
  induction front generalizing init last with
  | nil =>
    have hnil : init = [] ∧ last = [] := by
      simpa [pieces, List.singleton_eq_append_iff] using hfront
    obtain ⟨rfl, rfl⟩ := hnil
    exact pieces_of_notMem hback
  | cons c rest ih =>
    rw [pieces] at hfront
    rw [List.cons_append, pieces]
    split at hfront <;> rename_i hc
    · rw [if_pos hc]
      obtain ⟨rfl, hnil⟩ | ⟨init, rfl, hrest⟩ := List.cons_eq_append_iff.1 hfront
      · have hone : pieces sep rest = [] := (List.cons_eq_cons.1 hnil.symm).2
        exact absurd hone (pieces_ne_nil sep rest)
      · rw [ih hrest, List.cons_append]
    · rw [if_neg hc]
      cases hpieces : pieces sep rest with
      | nil => exact absurd hpieces (pieces_ne_nil sep rest)
      | cons piece more =>
        rw [hpieces] at hfront
        obtain ⟨rfl, hone⟩ | ⟨init, rfl, hmore⟩ := List.cons_eq_append_iff.1 hfront
        · obtain ⟨rfl, rfl⟩ := List.cons_eq_cons.1 hone
          have hrest : pieces sep (rest ++ back) = [] ++ [piece ++ back] := ih hpieces
          rw [hrest]
          rfl
        · have hrest : pieces sep (rest ++ back) = piece :: init ++ [last ++ back] :=
            ih (hpieces.trans (congrArg (piece :: ·) hmore))
          rw [hrest]
          rfl

private theorem notMem_of_mem_pieces {sep : Char} {cs piece : List Char}
    (h : piece ∈ pieces sep cs) :
    sep ∉ piece := by
  induction cs generalizing piece with
  | nil =>
    rw [pieces, List.mem_singleton] at h
    subst h
    exact List.not_mem_nil
  | cons c rest ih =>
    rw [pieces] at h
    split at h
    · rcases List.mem_cons.1 h with rfl | h
      · exact List.not_mem_nil
      · exact ih h
    · rename_i hc
      split at h
      · rw [List.mem_singleton] at h
        subst h
        simpa using Ne.symm hc
      · rename_i first more hpieces
        rcases List.mem_cons.1 h with rfl | h
        · have hfirst : sep ∉ first := ih (hpieces ▸ List.mem_cons_self)
          simp [Ne.symm hc, hfirst]
        · exact ih (hpieces ▸ List.mem_cons_of_mem _ h)

end Text

namespace Path

theorem textParts_ne_nil (path : Path) : path.textParts ≠ [] := by
  simpa [textParts] using Text.pieces_ne_nil '/' path.text.toList

theorem slash_notMem_textParts {path : Path} {part : String} (h : part ∈ path.textParts) :
    '/' ∉ part.toList := by
  obtain ⟨piece, hpiece, rfl⟩ := List.mem_map.1 h
  rw [String.toList_ofList]
  exact Text.notMem_of_mem_pieces hpiece

theorem textParts_between (front back : String) :
    (Path.mk (front ++ "/" ++ back)).textParts =
      (Path.mk front).textParts ++ (Path.mk back).textParts := by
  have hchars : (front ++ "/" ++ back).toList = front.toList ++ '/' :: back.toList := by simp
  rw [textParts, hchars, Text.pieces_between, List.map_append]
  rfl

private theorem isAbsolute_iff (path : Path) :
    path.isAbsolute = true ↔ path.text.toList.head? = some '/' := by
  unfold isAbsolute Text.startsWith
  cases path.text.toList with
  | nil => simp
  | cons c rest => simpa using eq_comm

def front (path : Path) : List PathStep :=
  if path.isAbsolute then [.root]
  else if path.textParts.head? = some "." then [.here]
  else []

private theorem steps_eq (path : Path) :
    path.steps = path.front ++ path.textParts.filterMap PathStep.ofPart? := rfl

private theorem front_congr {a b : Path} (habsolute : a.isAbsolute = true ↔ b.isAbsolute = true)
    (hhead : a.textParts.head? = b.textParts.head?) : a.front = b.front := by
  rw [front, front, Bool.eq_iff_iff.2 habsolute, hhead]

private theorem head?_textParts_between (front back : String) :
    (Path.mk (front ++ "/" ++ back)).textParts.head? = (Path.mk front).textParts.head? := by
  rw [textParts_between, List.head?_append_of_ne_nil _ (textParts_ne_nil _)]

section Join

def IsInner (file : String) : Prop :=
  (Path.mk file).textParts.head? ≠ some "" ∧ (Path.mk file).textParts.head? ≠ some "."

instance (file : String) : Decidable (IsInner file) :=
  inferInstanceAs (Decidable (_ ∧ _))

variable {file : String}

private theorem IsInner.isAbsolute (h : IsInner file) : (Path.mk file).isAbsolute = false :=
  Bool.eq_false_iff.2 fun habsolute => h.1 (head?_textParts_of_isAbsolute habsolute)

theorem IsInner.steps_eq (h : IsInner file) :
    (Path.mk file).steps = (Path.mk file).textParts.filterMap PathStep.ofPart? := by
  rw [Path.steps_eq, front, if_neg (by simp [h.isAbsolute]), if_neg h.2, List.nil_append]

private theorem steps_between (dir : String) (h : IsInner file) :
    (Path.mk (dir ++ "/" ++ file)).steps =
      (Path.mk (dir ++ "/")).steps ++ (Path.mk file).steps := by
  have hempty : dir ++ "/" = dir ++ "/" ++ "" := by simp
  have hfront : (Path.mk (dir ++ "/" ++ file)).front = (Path.mk (dir ++ "/")).front := by
    refine front_congr ?_ ?_
    · rw [isAbsolute_iff, isAbsolute_iff]
      cases hdir : dir.toList <;> simp [hdir]
    · rw [head?_textParts_between, congrArg Path.mk hempty, head?_textParts_between]
  have hparts : (Path.mk (dir ++ "/")).textParts = (Path.mk dir).textParts ++ [""] := by
    rw [hempty, textParts_between]
    rfl
  rw [Path.steps_eq, Path.steps_eq (Path.mk (dir ++ "/")), hfront, textParts_between, hparts,
    List.filterMap_append, List.filterMap_append, h.steps_eq]
  simp [PathStep.ofPart?]

private theorem steps_slash {dir : String} (hdir : dir ≠ "") :
    (Path.mk (dir ++ "/")).steps = (Path.mk dir).steps := by
  have hempty : dir ++ "/" = dir ++ "/" ++ "" := by simp
  have hfront : (Path.mk (dir ++ "/" ++ "")).front = (Path.mk dir).front := by
    refine front_congr ?_ (head?_textParts_between dir "")
    obtain ⟨c, rest, hchars⟩ := List.exists_cons_of_ne_nil (mt String.toList_eq_nil_iff.1 hdir)
    rw [isAbsolute_iff, isAbsolute_iff]
    simp [hchars]
  have hlast : (Path.mk "").textParts.filterMap PathStep.ofPart? = [] := by decide
  rw [hempty, Path.steps_eq, Path.steps_eq (Path.mk dir), hfront, textParts_between,
    List.filterMap_append, hlast, List.append_nil]

theorem steps_join (dir : Path) (h : IsInner file) :
    (dir.join file).steps = dir.steps ++ (Path.mk file).steps := by
  have hfile : ¬Text.startsWith file "/" = true := by
    have hrelative := h.isAbsolute
    simpa [isAbsolute] using hrelative
  obtain ⟨dir⟩ := dir
  rw [join, if_neg hfile]
  by_cases hempty : dir = ""
  · subst hempty
    have hnone : (Path.mk "").steps = [] := by decide
    rw [if_pos (.inl rfl), hnone, List.nil_append, String.empty_append]
  · by_cases hslash : Text.endsWith dir "/" = true
    · rw [if_pos (.inr hslash)]
      obtain ⟨front, hfront⟩ := List.isSuffixOf_iff_suffix.1 hslash
      have htext : dir = String.ofList front ++ "/" := by
        rw [← String.toList_inj, String.toList_append, String.toList_ofList, hfront]
      rw [htext]
      exact steps_between _ h
    · rw [if_neg (by simp [hempty, hslash])]
      exact (steps_between dir h).trans (congrArg (· ++ _) (steps_slash hempty))

end Join

end Path

namespace PathStep

def IsInner : PathStep → Prop
  | .up => True
  | .name s => TypeScript.IsFolder s
  | _ => False

private theorem IsInner.slash_notMem {step : PathStep} (h : step.IsInner) :
    '/' ∉ step.text.toList := by
  cases step with
  | root => cases h
  | here => cases h
  | up => decide
  | name s => exact h.1

private theorem IsInner.ofPart?_text {step : PathStep} (h : step.IsInner) :
    ofPart? step.text = some step := by
  cases step with
  | root => cases h
  | here => cases h
  | up => decide
  | name s => exact h.2

private theorem IsInner.text_ne {step : PathStep} (h : step.IsInner) :
    step.text ≠ "" ∧ step.text ≠ "." := by
  constructor <;>
    · intro htext
      have hpart := h.ofPart?_text
      rw [htext] at hpart
      cases hpart

theorem isInner_of_ofPart? {part : String} {step : PathStep} (hpart : '/' ∉ part.toList)
    (h : ofPart? part = some step) : step.IsInner := by
  have hsame := h
  unfold ofPart? at h
  split at h
  · cases h
  · split at h
    · cases h
      trivial
    · cases h
      exact ⟨hpart, hsame⟩

private theorem filterMap_ofPart?_text {inner : List PathStep} (h : ∀ step ∈ inner, step.IsInner) :
    (inner.map text).filterMap ofPart? = inner := by
  induction inner with
  | nil => rfl
  | cons step rest ih =>
    obtain ⟨hstep, hrest⟩ := List.forall_mem_cons.1 h
    rw [List.map_cons, List.filterMap_cons_some hstep.ofPart?_text, ih hrest]

def AreComposed (steps : List PathStep) : Prop :=
  ∃ front inner, front ∈ [[], [root], [here]] ∧ (∀ step ∈ inner, step.IsInner) ∧
    steps = front ++ inner

namespace AreComposed

variable {steps more : List PathStep}

theorem of_append (h : AreComposed (steps ++ more)) : AreComposed steps := by
  obtain ⟨front, inner, hfront, hinner, heq⟩ := h
  obtain ⟨later, rfl, -⟩ | ⟨early, rfl, rfl⟩ := List.append_eq_append_iff.1 heq
  · refine ⟨steps, [], ?_, by simp, (List.append_nil _).symm⟩
    rcases List.mem_cons.1 hfront with hnil | hone
    · simp [(List.append_eq_nil_iff.1 hnil).1]
    · cases steps with
      | nil => simp
      | cons step rest =>
        have hrest : rest = [] ∧ later = [] := by
          simp only [List.mem_cons, List.cons_append, List.cons.injEq, List.append_eq_nil_iff,
            List.not_mem_nil, or_false] at hone
          rcases hone with ⟨-, h⟩ | ⟨-, h⟩ <;> exact h
        obtain ⟨rfl, rfl⟩ := hrest
        exact hfront
  · exact ⟨front, early, hfront, fun step hstep => hinner step (List.mem_append_left _ hstep), rfl⟩

theorem take (h : AreComposed steps) (n : Nat) : AreComposed (steps.take n) := by
  rw [← List.take_append_drop n steps] at h
  exact h.of_append

theorem dropLast (h : AreComposed steps) : AreComposed steps.dropLast :=
  List.dropLast_eq_take ▸ h.take _

theorem concat {s : String} (h : AreComposed steps) (hs : TypeScript.IsFolder s) :
    AreComposed (steps ++ [name s]) := by
  obtain ⟨front, inner, hfront, hinner, rfl⟩ := h
  refine ⟨front, inner ++ [name s], hfront, ?_, List.append_assoc _ _ _⟩
  intro step hstep
  rcases List.mem_append.1 hstep with hstep | hstep
  · exact hinner step hstep
  · obtain rfl := List.mem_singleton.1 hstep
    exact hs

end AreComposed

end PathStep

namespace Path

theorem areComposed_steps (path : Path) : PathStep.AreComposed path.steps := by
  refine ⟨path.front, _, ?_, ?_, path.steps_eq⟩
  · unfold front
    split
    · simp
    · split <;> simp
  · intro step hstep
    obtain ⟨part, hpart, hstep⟩ := List.mem_filterMap.1 hstep
    exact PathStep.isInner_of_ofPart? (slash_notMem_textParts hpart) hstep

private theorem steps_ofRoot {inner : List PathStep} (hinner : ∀ step ∈ inner, step.IsInner) :
    (ofSteps (.root :: inner)).steps = .root :: inner := by
  cases inner with
  | nil => decide
  | cons step rest =>
    let texts := PathStep.text .root :: (step :: rest).map PathStep.text
    have htext : ofSteps (.root :: step :: rest) = ⟨Text.joined "/" texts⟩ := rfl
    have hslash : ∀ part ∈ texts, '/' ∉ part.toList := by
      refine List.forall_mem_cons.2 ⟨by decide, ?_⟩
      exact List.forall_mem_map.2 fun step hstep => (hinner step hstep).slash_notMem
    have hparts := textParts_joined hslash (List.cons_ne_nil _ _)
    have habsolute : (Path.mk (Text.joined "/" texts)).isAbsolute = true := by
      rw [isAbsolute_iff]
      simp [texts, Text.joined, PathStep.text]
    have hroot : PathStep.ofPart? (PathStep.text .root) = none := by decide
    rw [htext, steps_eq, front, if_pos habsolute, hparts, List.filterMap_cons_none hroot,
      PathStep.filterMap_ofPart?_text hinner]
    rfl

theorem steps_ofSteps {steps : List PathStep} (h : PathStep.AreComposed steps) :
    (ofSteps steps).steps = steps := by
  obtain ⟨front, inner, hfront, hinner, rfl⟩ := h
  have hslash : ∀ part ∈ inner.map PathStep.text, '/' ∉ part.toList :=
    List.forall_mem_map.2 fun step hstep => (hinner step hstep).slash_notMem
  simp only [List.mem_cons, List.not_mem_nil, or_false] at hfront
  rcases hfront with rfl | rfl | rfl
  · cases inner with
    | nil => decide
    | cons step rest =>
      have hstep : step.IsInner := hinner step List.mem_cons_self
      have hne : [PathStep.root] ≠ step :: rest := by
        rintro ⟨⟩
        exact hstep
      rw [List.nil_append, ofSteps, List.map_cons, steps_joined hslash hstep.text_ne.1,
        if_neg hstep.text_ne.2, List.nil_append, ← List.map_cons,
        PathStep.filterMap_ofPart?_text hinner]
      exact fun heq => hne heq.symm
  · exact steps_ofRoot hinner
  · have hdot : PathStep.text .here = "." ∧ PathStep.ofPart? (PathStep.text .here) = none := by
      decide
    rw [List.singleton_append, ofSteps, List.map_cons, steps_joined _ (by decide), if_pos hdot.1,
      List.filterMap_cons_none hdot.2, PathStep.filterMap_ofPart?_text hinner]
    · rfl
    · exact List.forall_mem_cons.2 ⟨by decide, hslash⟩
    · simp

end Path

end SchemaMocks
