import SchemaMocks.Directive.Reader
import SchemaMocks.Proofs.Text.Lines
import SchemaMocks.Source.Basic

set_option autoImplicit false
set_option relaxedAutoImplicit false

/-!
The mark of directives. Every form begins with the mark, so nothing is read from a line without it,
and a line that holds it in front alone is read by the form of the name that follows it. Of a
comment whose lines hold no mark except for the last one, only that line is read.
-/

namespace SchemaMocks

namespace Text

variable {front cs rest : List Char}

private theorem after?_eq_some_iff : after? front cs = some rest ↔ cs = front ++ rest := by
  unfold after?
  rw [Option.ite_none_right_eq_some, List.isPrefixOf_iff_prefix]
  constructor
  · rintro ⟨⟨tail, rfl⟩, htail⟩
    rw [List.drop_left, Option.some.injEq] at htail
    rw [htail]
  · rintro rfl
    exact ⟨List.prefix_append front rest, by rw [List.drop_left]⟩

theorem after?_append (front rest : List Char) : after? front (front ++ rest) = some rest :=
  after?_eq_some_iff.2 rfl

private theorem after?_eq_none (h : ¬front <+: cs) : after? front cs = none := by
  rw [Option.eq_none_iff_forall_ne_some]
  rintro rest hrest
  exact h ⟨rest, (after?_eq_some_iff.1 hrest).symm⟩

end Text

namespace Directive

open Text

def mark : List Char :=
  "@mock".toList

section Forms

variable {form : List Char → Option Finding} {name : String} {cs rest : List Char}

def NeedsMark (form : List Char → Option Finding) : Prop :=
  ∀ cs finding, form cs = some finding → mark <+: cs

private theorem mark_prefix_of_opened? (h : opened? name cs = some rest) : mark <+: cs := by
  obtain ⟨tail, htail, -⟩ := Option.bind_eq_some_iff.1 h
  rw [after?_eq_some_iff.1 htail, String.toList_append, List.append_assoc]
  exact ⟨'.' :: (name.toList ++ tail), rfl⟩

private theorem needsMark_opened {more : List Char → Option Finding}
    (h : ∀ cs, form cs = (opened? name cs).bind more) : NeedsMark form := by
  intro cs finding hfinding
  rw [h] at hfinding
  obtain ⟨rest, hrest, -⟩ := Option.bind_eq_some_iff.1 hfinding
  exact mark_prefix_of_opened? hrest

def forms : List (String × (List Char → Option Finding)) :=
  [("range", rangeForm), ("pattern", patternForm), ("enum", enumForm),
    ("relationDepth", depthForm)]

theorem range_mem_forms : ("range", rangeForm) ∈ forms :=
  List.mem_cons_self

theorem pattern_mem_forms : ("pattern", patternForm) ∈ forms :=
  List.mem_cons_of_mem _ List.mem_cons_self

theorem enum_mem_forms : ("enum", enumForm) ∈ forms :=
  List.mem_cons_of_mem _ (List.mem_cons_of_mem _ List.mem_cons_self)

theorem relationDepth_mem_forms : ("relationDepth", depthForm) ∈ forms :=
  List.mem_cons_of_mem _ (List.mem_cons_of_mem _ (List.mem_cons_of_mem _ List.mem_cons_self))

theorem withArguments?_eq (line : List Char) :
    withArguments? line = (forms.findSome? fun entry => leftmost entry.2 line).join :=
  rfl

private theorem exists_more {entry : String × (List Char → Option Finding)}
    (hentry : entry ∈ forms) :
    ∃ more : List Char → Option Finding, ∀ cs, entry.2 cs = (opened? entry.1 cs).bind more := by
  simp only [forms, List.mem_cons, List.not_mem_nil, or_false] at hentry
  rcases hentry with rfl | rfl | rfl | rfl
  · exact ⟨_, fun _ => rfl⟩
  · exact ⟨_, fun _ => rfl⟩
  · exact ⟨_, fun _ => rfl⟩
  · exact ⟨_, fun _ => rfl⟩

private theorem leftmost_eq_none (hform : NeedsMark form) (h : ¬mark <:+: cs) :
    leftmost form cs = none := by
  induction cs with
  | nil =>
    rw [leftmost, Option.eq_none_iff_forall_ne_some]
    intro finding hfinding
    exact h (hform _ _ hfinding).isInfix
  | cons c rest ih =>
    have hhere : form (c :: rest) = none := by
      rw [Option.eq_none_iff_forall_ne_some]
      intro finding hfinding
      exact h (hform _ _ hfinding).isInfix
    rw [leftmost, hhere]
    exact ih fun hrest => h (hrest.trans (List.suffix_cons c rest).isInfix)

private theorem leftmost_front (hform : NeedsMark form) {c : Char} (h : ¬mark <:+: rest) :
    leftmost form (c :: rest) = form (c :: rest) := by
  rw [leftmost, leftmost_eq_none hform h]
  cases form (c :: rest) <;> rfl

private theorem ofLine?_of_unmarked {line : String} (h : ¬mark <:+: line.toList) :
    ofLine? line = none := by
  have htrim : ¬mark <:+: trim line.toList := fun hmark => h (hmark.trans (infix_of_trim _))
  have hbare : after? "@mock ".toList (trim line.toList) = none := by
    refine after?_eq_none fun hprefix => htrim (List.IsInfix.trans ?_ hprefix.isInfix)
    exact (List.prefix_append mark [' ']).isInfix
  have hforms : forms.findSome? (fun entry => leftmost entry.2 (trim line.toList)) = none := by
    rw [List.findSome?_eq_none_iff]
    intro entry hentry
    obtain ⟨more, hmore⟩ := exists_more hentry
    exact leftmost_eq_none (needsMark_opened hmore) htrim
  unfold ofLine?
  simp only [hbare, withArguments?_eq, hforms, Option.join_none]

end Forms

section Written

def written (name : String) (body : List Char) : List Char :=
  ("@mock." ++ name).toList ++ '(' :: (body ++ [')'])

variable {name other : String} {body : List Char}

theorem opened?_self (name : String) (body : List Char) :
    opened? name (written name body) = some (body ++ [')']) := by
  unfold opened? written
  rw [after?_append]
  rfl

private theorem opened?_other (hother : ¬name.toList <+: other.toList) (hparen : '(' ∉ name.toList)
    (body : List Char) : opened? name (written other body) = none := by
  have hnone : after? ("@mock." ++ name).toList (written other body) = none := by
    refine after?_eq_none fun hprefix => ?_
    unfold written at hprefix
    rw [String.toList_append, String.toList_append, List.append_assoc,
      List.prefix_append_right_inj, List.append_cons] at hprefix
    -- either name goes on where the other one ends
    rcases List.prefix_or_prefix_of_prefix hprefix (List.prefix_append _ _) with hshort | hlong
    · rcases List.prefix_concat_iff.1 hshort with heq | hshort
      · exact hparen (by simp [heq])
      · exact hother hshort
    · exact hparen (hlong.subset (by simp))
  unfold opened?
  rw [hnone]
  rfl

private theorem form_other {entry : String × (List Char → Option Finding)} (hentry : entry ∈ forms)
    (hname : name ∈ forms.map Prod.fst) (hne : entry.1 ≠ name) (body : List Char) :
    entry.2 (written name body) = none := by
  have hdistinct : ∀ first ∈ forms.map Prod.fst, ∀ second ∈ forms.map Prod.fst, first ≠ second →
      ¬first.toList <+: second.toList := by decide
  have hplain : ∀ first ∈ forms.map Prod.fst, '(' ∉ first.toList := by decide
  have hfirst : entry.1 ∈ forms.map Prod.fst := List.mem_map_of_mem hentry
  obtain ⟨more, hmore⟩ := exists_more hentry
  rw [hmore, opened?_other (hdistinct _ hfirst _ hname hne) (hplain _ hfirst)]
  rfl

private theorem findSome?_of_others {α β : Type} {f : α → Option β} {a : α} {l : List α}
    (ha : a ∈ l)
    (hothers : ∀ b ∈ l, b = a ∨ f b = none) : l.findSome? f = f a := by
  induction l with
  | nil => simp at ha
  | cons b l ih =>
    obtain ⟨hb, hl⟩ := List.forall_mem_cons.1 hothers
    rw [List.findSome?_cons]
    rcases hb with rfl | hb
    · cases hfound : f b with
      | some found => rfl
      | none =>
        refine List.findSome?_eq_none_iff.2 fun d hd => ?_
        rcases hl d hd with rfl | hnone
        · exact hfound
        · exact hnone
    · rcases List.mem_cons.1 ha with rfl | ha
      · rw [hb]
        exact List.findSome?_eq_none_iff.2 fun d hd => (hl d hd).elim (fun heq => heq ▸ hb) id
      · rw [hb]
        exact ih ha hl

private theorem withArguments?_written {form : List Char → Option Finding}
    (hform : (name, form) ∈ forms)
    (hbody : ¬mark <:+: body) :
    withArguments? (written name body) = (form (written name body)).join := by
  have hname : name ∈ forms.map Prod.fst := List.mem_map_of_mem hform
  have hrest : ¬mark <:+: "mock.".toList ++ name.toList ++ '(' :: (body ++ [')']) := by
    intro hmark
    have hplain : ∀ first ∈ forms.map Prod.fst,
        '@' ∉ "mock.".toList ++ first.toList ++ ['('] := by decide
    rw [List.append_cons] at hmark
    rcases infix_of_between (by decide) (infix_of_append_left (hplain name hname) hmark)
      with hfound | hnil
    · exact hbody hfound
    · exact absurd (List.infix_nil.1 hnil) (by decide)
  have hcons : written name body =
      '@' :: ("mock.".toList ++ name.toList ++ '(' :: (body ++ [')'])) := by
    unfold written
    rw [String.toList_append]
    rfl
  have hleftmost : ∀ entry ∈ forms,
      leftmost entry.2 (written name body) = entry.2 (written name body) := by
    intro entry hentry
    obtain ⟨more, hmore⟩ := exists_more hentry
    rw [hcons]
    exact leftmost_front (needsMark_opened hmore) hrest
  have hforms : forms.findSome? (fun entry => leftmost entry.2 (written name body)) =
      leftmost form (written name body) := by
    refine findSome?_of_others hform fun entry hentry => ?_
    by_cases hsame : entry.1 = name
    · exact .inl (List.inj_on_of_nodup_map (by decide) hentry hform hsame)
    · exact .inr ((hleftmost entry hentry).trans (form_other hentry hname hsame body))
  rw [withArguments?_eq, hforms, hleftmost _ hform]

private theorem trim_written (name : String) (body : List Char) :
    trim (written name body) = written name body := by
  have hends := trim_of_visible_ends (c := '@') (d := ')') rfl rfl
    ("mock.".toList ++ name.toList ++ '(' :: body)
  unfold written
  rw [String.toList_append]
  simpa using hends

theorem isLine_written (hname : '\n' ∉ name.toList) (hbody : '\n' ∉ body) :
    IsLine (written name body) := by
  refine ⟨by simp [written], trim_written name body, ?_⟩
  unfold written
  rw [String.toList_append]
  simp [hname, hbody]

theorem ofLine?_written {form : List Char → Option Finding} (hform : (name, form) ∈ forms)
    (hbody : ¬mark <:+: body) :
    ofLine? (String.ofList (written name body)) = (form (written name body)).join := by
  have hbare : after? "@mock ".toList (written name body) = none := by
    refine after?_eq_none fun hprefix => ?_
    unfold written at hprefix
    rw [String.toList_append, List.append_assoc] at hprefix
    have hshort : "@mock ".toList <+: "@mock.".toList :=
      List.prefix_of_prefix_length_le hprefix (List.prefix_append _ _) (by decide)
    exact absurd hshort (by decide)
  unfold ofLine?
  simp only [String.toList_ofList, trim_written, hbare]
  exact withArguments?_written hform hbody

end Written

/-- Blanks around a line do not matter to what is read from it. -/
theorem ofLine?_padded {front back : String} (hfront : ∀ c ∈ front.toList, isBlank c = true)
    (hback : ∀ c ∈ back.toList, isBlank c = true) (line : String) :
    ofLine? (front ++ line ++ back) = ofLine? line := by
  unfold ofLine?
  simp only [String.toList_append, trim_padded hfront hback]

end Directive

namespace Field

open Directive

variable {field : Field} {before : List String} {front line back : String}

private theorem filterMap_ofLine?_of_unmarked {texts : List String}
    (h : ∀ text ∈ texts, ¬mark <:+: text.toList) :
    ((texts.flatMap (Text.visibleLines ·.toList)).map String.ofList).filterMap ofLine? = [] := by
  rw [List.filterMap_eq_nil_iff]
  intro line hline
  obtain ⟨cs, hcs, rfl⟩ := List.mem_map.1 hline
  obtain ⟨text, htext, hcs⟩ := List.mem_flatMap.1 hcs
  refine ofLine?_of_unmarked fun hmark => h text htext ?_
  rw [String.toList_ofList] at hmark
  exact hmark.trans (Text.infix_of_mem_visibleLines hcs)

/-- Of a comment whose lines hold no mark except for the last one, only that line is read. -/
theorem directives_of_last
    (hdoc : field.documentation = some ("\n".intercalate (before ++ [front ++ line ++ back])))
    (hbefore : ∀ text ∈ before, ¬mark <:+: text.toList)
    (hfront : ∀ c ∈ front.toList, Text.isBlank c = true)
    (hback : ∀ c ∈ back.toList, Text.isBlank c = true) (hline : Text.IsLine line.toList) :
    field.directives = (ofLine? line).toList := by
  have hlast : Text.visibleLines (front ++ line ++ back).toList = [line.toList] := by
    rw [String.toList_append, String.toList_append, Text.visibleLines_padded hfront hback]
    exact hline.visibleLines_eq
  unfold directives
  rw [documentationLines_eq, hdoc, Option.getD_some, Text.visibleLines_joined, hlast,
    List.map_append, List.filterMap_append, filterMap_ofLine?_of_unmarked hbefore,
    List.nil_append, List.map_singleton, String.ofList_toList]
  cases hread : ofLine? line <;> simp [hread]

/-- A field takes the only directive of its comment where it can meet it. -/
theorem directive?_of_single {found : Option Directive}
    (hdirectives : field.directives = found.toList)
    (hfits : ∀ directive ∈ found, directive.fits field.scalar? = true) :
    field.directive? = found := by
  unfold directive?
  rw [hdirectives]
  cases found with
  | none => rfl
  | some directive => exact List.find?_cons_of_pos (hfits directive rfl)

theorem explicitSource?_cases {source : MockSource} (h : field.explicitSource? = some source) :
    (∃ d, source = .directive d ∧ field.directive? = some d) ∨
      ∃ d, source = .default d ∧ ∀ value, field.directive? ≠ some (.fixed value) := by
  unfold explicitSource? at h
  split at h
  · rename_i hdirective
    obtain ⟨mock, -, rfl⟩ := Option.map_eq_some_iff.1 h
    exact .inr ⟨mock, rfl, by simp [hdirective]⟩
  · rename_i hdirective
    obtain ⟨mock, -, rfl⟩ := Option.map_eq_some_iff.1 h
    exact .inr ⟨mock, rfl, by simp [hdirective]⟩
  · rename_i found _ hdirective
    cases h
    exact .inl ⟨found, rfl, hdirective⟩

theorem explicitSource?_of_fixed {value : String} (h : field.directive? = some (.fixed value)) :
    field.explicitSource? = some (.directive (.fixed value)) := by
  unfold explicitSource?
  rw [h]

end Field

end SchemaMocks
