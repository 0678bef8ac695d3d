import Mathlib.Data.List.Infix
import SchemaMocks.Proofs.Directive.Marks

set_option autoImplicit false
set_option relaxedAutoImplicit false

/-!
Quoted patterns. Either quote closes a pattern, whichever one opened it, where blanks and a
parenthesis follow. So a pattern between quotes that it does not hold is read in full exactly where
no other quote closes it early; otherwise a beginning of it is read.
-/

namespace SchemaMocks.Directive

open Text

/-- Whether a quote within a text, not in front of it, is followed by blanks and a parenthesis. -/
def ClosesEarly (cs : List Char) : Prop :=
  ∃ first front quote blanks back, cs = first :: (front ++ quote :: (blanks ++ ')' :: back)) ∧
    isQuote quote = true ∧ ∀ c ∈ blanks, isBlank c = true

section Body

variable {q c : Char} {cs body closing : List Char}

private theorem isBlank_of_isQuote (h : isQuote c = true) : isBlank c = false := by
  simp only [isQuote, Bool.or_eq_true, beq_iff_eq] at h
  rcases h with rfl | rfl <;> rfl

private theorem head?_trimFront_eq_some_iff (hc : isBlank c = false) :
    (trimFront cs).head? = some c ↔
      ∃ blanks back, cs = blanks ++ c :: back ∧ ∀ d ∈ blanks, isBlank d = true := by
  constructor
  · intro hhead
    obtain ⟨back, hback⟩ := List.head?_eq_some_iff.1 hhead
    refine ⟨cs.takeWhile isBlank, back, ?_, List.all_eq_true.1 List.all_takeWhile⟩
    rw [← hback]
    exact List.takeWhile_append_dropWhile.symm
  · rintro ⟨blanks, back, rfl, hblanks⟩
    have hdrop : trimFront (blanks ++ c :: back) = trimFront (c :: back) :=
      List.dropWhile_append_of_pos hblanks
    rw [hdrop, trimFront_cons_of_visible hc, List.head?_cons]

private theorem closesQuoted_eq_true_iff : closesQuoted cs = true ↔
    ∃ quote blanks back, cs = quote :: (blanks ++ ')' :: back) ∧ isQuote quote = true ∧
      ∀ c ∈ blanks, isBlank c = true := by
  cases cs with
  | nil => simp [closesQuoted]
  | cons c rest =>
    rw [closesQuoted, Bool.and_eq_true, beq_iff_eq, head?_trimFront_eq_some_iff rfl]
    constructor
    · rintro ⟨hc, blanks, back, rfl, hblanks⟩
      exact ⟨c, blanks, back, rfl, hc, hblanks⟩
    · rintro ⟨quote, blanks, back, heq, hquote, hblanks⟩
      obtain ⟨rfl, rfl⟩ := List.cons.inj heq
      exact ⟨hquote, blanks, back, rfl, hblanks⟩

private theorem closesQuoted_append (hq : isQuote q = true) (hne : cs ≠ []) (more : List Char) :
    closesQuoted (cs ++ q :: more) = closesQuoted cs := by
  cases cs with
  | nil => exact absurd rfl hne
  | cons c rest =>
    have hparen : q ≠ ')' := by
      rintro rfl
      cases hq
    have hhead : (trimFront (rest ++ q :: more)).head? = some ')' ↔
        (trimFront rest).head? = some ')' := by
      unfold trimFront
      rw [List.dropWhile_append]
      split
      · rename_i hblank
        have hvisible := isBlank_of_isQuote hq
        rw [List.isEmpty_iff] at hblank
        simp [hblank, hvisible, hparen]
      · rename_i hvisible
        cases hrest : rest.dropWhile isBlank with
        | nil => simp [hrest] at hvisible
        | cons d tail => simp
    rw [List.cons_append, closesQuoted, closesQuoted, Bool.eq_iff_iff]
    simp only [Bool.and_eq_true, beq_iff_eq, hhead]

private theorem exists_quotedBody? (hclosing : closesQuoted closing = true) (hbreak : '\n' ∉ body) :
    ∃ part, quotedBody? (body ++ closing) = some part ∧ part <+: body := by
  induction body with
  | nil =>
    cases closing with
    | nil => cases hclosing
    | cons c rest => exact ⟨[], by rw [List.nil_append, quotedBody?, if_pos hclosing],
        List.prefix_rfl⟩
  | cons c body ih =>
    simp only [List.mem_cons, not_or] at hbreak
    obtain ⟨hc, hbody⟩ := hbreak
    obtain ⟨part, hpart, hprefix⟩ := ih hbody
    rw [List.cons_append, quotedBody?]
    split_ifs with hcloses hline
    · exact ⟨[], rfl, List.nil_prefix⟩
    · rw [beq_iff_eq] at hline
      exact absurd hline.symm hc
    · exact ⟨c :: part, by rw [hpart, Option.map_some], List.cons_prefix_cons.2 ⟨rfl, hprefix⟩⟩

private theorem quotedBody?_append_iff (hclosing : closesQuoted closing = true)
    (hbreak : '\n' ∉ body) :
    quotedBody? (body ++ closing) = some body ↔
      ∀ back, back <:+ body → back ≠ [] → closesQuoted (back ++ closing) = false := by
  induction body with
  | nil =>
    cases closing with
    | nil => cases hclosing
    | cons c rest =>
      rw [List.nil_append, quotedBody?, if_pos hclosing]
      exact iff_of_true rfl fun back hback hne => absurd (List.suffix_nil.1 hback) hne
  | cons c body ih =>
    simp only [List.mem_cons, not_or] at hbreak
    obtain ⟨hc, hbody⟩ := hbreak
    rw [List.cons_append, quotedBody?]
    split_ifs with hcloses hline
    · refine iff_of_false (by simp) fun hnone => ?_
      have hfalse := hnone (c :: body) List.suffix_rfl (List.cons_ne_nil c body)
      rw [List.cons_append, hcloses] at hfalse
      cases hfalse
    · rw [beq_iff_eq] at hline
      exact absurd hline.symm hc
    · rw [Option.map_eq_some_iff]
      simp only [List.cons.injEq, true_and, exists_eq_right]
      rw [ih hbody]
      constructor
      · intro hrest back hback hne
        rcases List.suffix_cons_iff.1 hback with rfl | hback
        · simpa using hcloses
        · exact hrest back hback hne
      · intro hall back hback hne
        exact hall back (hback.trans (List.suffix_cons c body)) hne

end Body

section Pattern

variable {q first : Char} {rest : List Char}

private theorem closesEarly_iff {cs : List Char} :
    ClosesEarly cs ↔ cs.tail.tails.any closesQuoted = true := by
  simp only [List.any_eq_true, List.mem_tails, closesQuoted_eq_true_iff]
  constructor
  · rintro ⟨first, front, quote, blanks, back, rfl, hquote, hblanks⟩
    exact ⟨_, List.suffix_append front _, quote, blanks, back, rfl, hquote, hblanks⟩
  · rintro ⟨closing, hclosing, quote, blanks, back, rfl, hquote, hblanks⟩
    cases cs with
    | nil => cases List.suffix_nil.1 hclosing
    | cons first rest =>
      obtain ⟨front, rfl⟩ := hclosing
      exact ⟨first, front, quote, blanks, back, rfl, hquote, hblanks⟩

instance (cs : List Char) : Decidable (ClosesEarly cs) :=
  decidable_of_iff (cs.tail.tails.any closesQuoted = true) closesEarly_iff.symm

private theorem quotedBody?_iff_not_closesEarly (hq : isQuote q = true) (hbreak : '\n' ∉ rest) :
    quotedBody? (rest ++ [q, ')']) = some rest ↔ ¬ClosesEarly (first :: rest) := by
  rw [quotedBody?_append_iff (by simp [closesQuoted, hq, trimFront, isBlank]) hbreak,
    closesEarly_iff, List.tail_cons]
  simp only [List.any_eq_true, List.mem_tails]
  constructor
  · rintro hnone ⟨back, hback, hcloses⟩
    have hne : back ≠ [] := by
      rintro rfl
      cases hcloses
    rw [← closesQuoted_append hq hne, hnone back hback hne] at hcloses
    cases hcloses
  · intro hnever back hback hne
    rw [closesQuoted_append hq hne, ← Bool.not_eq_true]
    exact fun hcloses => hnever ⟨back, hback, hcloses⟩

private theorem patternForm_written (hq : isQuote q = true) (hfirst : first ≠ '\n')
    (rest : List Char) :
    patternForm (written "pattern" (q :: (first :: rest ++ [q]))) =
      (quotedBody? (rest ++ [q, ')'])).map fun body =>
        some (pattern (String.ofList (first :: body))) := by
  have hopened := opened?_self "pattern" (q :: (first :: rest ++ [q]))
  have htrim : trimFront (q :: (first :: rest ++ [q]) ++ [')']) =
      q :: first :: (rest ++ [q, ')']) := by
    rw [List.cons_append, trimFront_cons_of_visible (isBlank_of_isQuote hq)]
    simp
  unfold patternForm
  rw [hopened]
  simp only [Option.bind_eq_bind, Option.bind_some, htrim, hq, Bool.true_and, bne_iff_ne, ne_eq,
    hfirst, not_false_iff, if_true]
  cases quotedBody? (rest ++ [q, ')']) <;> rfl

private theorem ofLine?_pattern (hq : isQuote q = true) {re : String}
    (hre : re.toList = first :: rest)
    (hbreak : '\n' ∉ re.toList) (hmark : contains re "@mock" = false) :
    ofLine? ("@mock.pattern(" ++ String.singleton q ++ re ++ String.singleton q ++ ")") =
      (quotedBody? (rest ++ [q, ')'])).map fun body => pattern (String.ofList (first :: body)) := by
  have hline : "@mock.pattern(" ++ String.singleton q ++ re ++ String.singleton q ++ ")" =
      String.ofList (written "pattern" (q :: (first :: rest ++ [q]))) := by
    rw [← String.toList_inj, String.toList_ofList, ← hre]
    simp [written]
  have hbody : ¬mark <:+: q :: (first :: rest ++ [q]) := by
    have hplain : q ∉ mark := by
      simp only [isQuote, Bool.or_eq_true, beq_iff_eq] at hq
      rcases hq with rfl | rfl <;> decide
    rw [← hre]
    intro hfound
    have hinside := infix_of_enclosed hplain (by decide) hfound
    have hcontains : contains re "@mock" = true := (occursIn_iff _ _).2 hinside
    rw [hmark] at hcontains
    cases hcontains
  have hfirst : first ≠ '\n' := by
    rintro rfl
    exact hbreak (by simp [hre])
  rw [hline, ofLine?_written pattern_mem_forms hbody, patternForm_written hq hfirst]
  cases quotedBody? (rest ++ [q, ')']) <;> rfl

end Pattern

/-- Of a pattern between quotes a beginning is read, and all of it exactly where no quote within it
is followed by a parenthesis. -/
theorem pattern_read_iff {q : Char} {re : String} (hq : isQuote q = true) (hne : re ≠ "")
    (hbreak : '\n' ∉ re.toList) (hmark : contains re "@mock" = false) :
    (∃ part, ofLine? ("@mock.pattern(" ++ String.singleton q ++ re ++ String.singleton q ++ ")") =
        some (pattern part) ∧ part.toList <+: re.toList) ∧
      (ofLine? ("@mock.pattern(" ++ String.singleton q ++ re ++ String.singleton q ++ ")") =
        some (pattern re) ↔ ¬ClosesEarly re.toList) := by
  cases hre : re.toList with
  | nil => exact absurd (String.toList_eq_nil_iff.1 hre) hne
  | cons first rest =>
    have hrest : '\n' ∉ rest := fun h => hbreak (hre ▸ List.mem_cons_of_mem first h)
    have hclosing : closesQuoted [q, ')'] = true := by simp [closesQuoted, hq, trimFront, isBlank]
    rw [ofLine?_pattern hq hre hbreak hmark]
    constructor
    · obtain ⟨part, hpart, hprefix⟩ := exists_quotedBody? hclosing hrest
      refine ⟨String.ofList (first :: part), by rw [hpart, Option.map_some], ?_⟩
      rw [String.toList_ofList]
      exact List.cons_prefix_cons.2 ⟨rfl, hprefix⟩
    · rw [← quotedBody?_iff_not_closesEarly hq hrest, Option.map_eq_some_iff]
      have hsame : ∀ body, pattern (String.ofList (first :: body)) = pattern re ↔ body = rest := by
        intro body
        rw [pattern.injEq, ← String.toList_inj, String.toList_ofList, hre, List.cons.injEq]
        simp
      simp only [hsame, exists_eq_right]

/-- A pattern with a group and with the other quote, which closes nothing. -/
theorem pattern_read_iff_group :
    (isQuote '\"' = true ∧ "(it\x27s|a)-\\d+" ≠ "" ∧ '\n' ∉ "(it\x27s|a)-\\d+".toList ∧
      contains "(it\x27s|a)-\\d+" "@mock" = false) ∧
      ¬ClosesEarly "(it\x27s|a)-\\d+".toList ∧
      ofLine? "@mock.pattern(\"(it\x27s|a)-\\d+\")" = some (pattern "(it\x27s|a)-\\d+") := by
  have hopen : ¬ClosesEarly "(it\x27s|a)-\\d+".toList := by decide +kernel
  have hread := (pattern_read_iff (q := '\"') (by decide) (by decide) (by decide) (by decide)).2.2 hopen
  have hline : "@mock.pattern(" ++ String.singleton '\"' ++ "(it\x27s|a)-\\d+" ++
      String.singleton '\"' ++ ")" = "@mock.pattern(\"(it\x27s|a)-\\d+\")" := by decide +kernel
  rw [hline] at hread
  exact ⟨by decide, hopen, hread⟩

/-- A group that ends with the other quote closes the pattern. -/
theorem quoted_group_closes_pattern :
    isQuote '\"' = true ∧ '\"' ∉ "(\x27a\x27)+".toList ∧
      contains "(\x27a\x27)+" "@mock" = false ∧
      ofLine? "@mock.pattern(\"(\x27a\x27)+\")" = some (pattern "(\x27a") := by
  decide +kernel

end SchemaMocks.Directive
