import SchemaMocks.Pattern.Reader
import SchemaMocks.Proofs.Text.Alike

set_option autoImplicit false
set_option relaxedAutoImplicit false

/-!
Patterns of words. An alternation of words of letters, without regard to case, is well formed, and
it matches the texts that are like one of the words: the reader takes the letters of a word one by
one and a bar closes a branch.
-/

namespace SchemaMocks.Pattern

def letters (word : List Char) : List Pattern :=
  word.map (char .unicode)

def barred (words : List String) : List Char :=
  words.flatMap fun word => '|' :: word.toList

section Matching

variable {text word : List Char} {parts branches : List Pattern}

private theorem matches_sequence_nil : (sequence []).Matches text ↔ text = [] := by
  constructor
  · rintro ⟨⟩
    rfl
  · rintro rfl
    exact .sequenceNil

private theorem matches_sequence_cons {part : Pattern} : (sequence (part :: parts)).Matches text ↔
    ∃ front back, text = front ++ back ∧ part.Matches front ∧ (sequence parts).Matches back := by
  constructor
  · intro h
    cases h with
    | sequenceCons hhead htail => exact ⟨_, _, rfl, hhead, htail⟩
  · rintro ⟨front, back, rfl, hhead, htail⟩
    exact .sequenceCons hhead htail

private theorem matches_empty : empty.Matches text ↔ text = [] := by
  constructor
  · rintro ⟨⟩
    rfl
  · rintro rfl
    exact .empty

private theorem matches_inSequence :
    (inSequence parts).Matches text ↔ (sequence parts).Matches text := by
  unfold inSequence
  split
  · rw [matches_sequence_nil, matches_empty]
  · simp [matches_sequence_cons, matches_sequence_nil]
  · rfl

private theorem matches_choice :
    (choice branches).Matches text ↔ ∃ branch ∈ branches, branch.Matches text := by
  constructor
  · intro h
    cases h with
    | choice hmem hbody => exact ⟨_, hmem, hbody⟩
  · rintro ⟨branch, hmem, hbody⟩
    exact .choice hmem hbody

private theorem matches_letters :
    (sequence (letters word)).Matches text ↔ Text.FoldAlike text word := by
  induction word generalizing text with
  | nil =>
    rw [letters, List.map_nil, matches_sequence_nil, Text.FoldAlike, List.forall₂_nil_right_iff]
  | cons c word ih =>
    rw [letters, List.map_cons, ← letters, matches_sequence_cons, Text.FoldAlike,
      List.forall₂_cons_right_iff]
    constructor
    · rintro ⟨front, back, rfl, hletter, hrest⟩
      cases hletter with
      | char same => exact ⟨_, back, same, ih.1 hrest, rfl⟩
    · rintro ⟨d, back, same, hrest, rfl⟩
      exact ⟨[d], back, rfl, .char same, ih.2 hrest⟩

private theorem matches_wholeOf {items earlier : List Pattern} :
    (Reader.wholeOf items earlier).Matches text ↔
      (sequence items.reverse).Matches text ∨ ∃ branch ∈ earlier, branch.Matches text := by
  unfold Reader.wholeOf
  split
  · simp [matches_inSequence]
  · simp [matches_choice, matches_inSequence, or_comm]

end Matching

section Depth

variable {parts items earlier : List Pattern} {n : Nat}

private theorem depthOf_le (h : ∀ part ∈ parts, part.depth ≤ n) : depthOf parts ≤ n := by
  induction parts with
  | nil => exact Nat.zero_le n
  | cons part rest ih =>
    obtain ⟨hpart, hrest⟩ := List.forall_mem_cons.1 h
    exact Nat.max_le.2 ⟨hpart, ih hrest⟩

private theorem depth_inSequence_le (h : ∀ part ∈ parts, part.depth ≤ n) :
    (inSequence parts).depth ≤ n + 1 := by
  unfold inSequence
  split
  · exact Nat.zero_le _
  · exact Nat.le_succ_of_le (h _ (List.mem_singleton_self _))
  · exact Nat.succ_le_succ (depthOf_le h)

private theorem depth_reverse_le (h : ∀ item ∈ items, item.depth ≤ n) :
    (inSequence items.reverse).depth ≤ n + 1 :=
  depth_inSequence_le fun item hitem => h item (List.mem_reverse.1 hitem)

private theorem depth_wholeOf_le (hitems : ∀ item ∈ items, item.depth ≤ n)
    (hearlier : ∀ branch ∈ earlier, branch.depth ≤ n + 1) :
    (Reader.wholeOf items earlier).depth ≤ n + 2 := by
  unfold Reader.wholeOf
  split
  · exact Nat.le_succ_of_le (depth_reverse_le hitems)
  · refine Nat.succ_le_succ (depthOf_le fun branch hbranch => ?_)
    rcases List.mem_cons.1 (List.mem_reverse.1 hbranch) with rfl | hbranch
    · exact depth_reverse_le hitems
    · exact hearlier branch hbranch

private theorem depth_letters {word : List Char} {part : Pattern} (h : part ∈ letters word) :
    part.depth ≤ 0 := by
  obtain ⟨c, -, rfl⟩ := List.mem_map.1 h
  exact Nat.le_refl 0

end Depth

namespace Reader

variable {s : ReaderState} {c : Char} {rest word : List Char} {items earlier : List Pattern}

private theorem run_skipBlanks (s : ReaderState) (hs : s.flags.spaced = false) :
    skipBlanks.run s = some ((), s) := by
  simp [skipBlanks, hs]

theorem run_peek (s : ReaderState) : peek.run s = some (s.rest.head?, s) :=
  rfl

private theorem ne_of_isAlpha {d : Char} (hc : c.isAlpha = true) (hd : d.isAlpha = false) :
    c ≠ d := by
  rintro rfl
  rw [hc] at hd
  cases hd

private theorem run_single (hc : c.isAlpha = true) : single.run { s with rest := c :: rest } =
    some (.char s.flags.rule c, { s with rest }) := by
  rw [single, StateT.run_bind]
  simp only [StateT.run_get, Option.pure_def, Option.bind_eq_bind, Option.bind_some,
    StateT.run_bind, run_peek, List.head?_cons]
  split
  · rename_i heq
    cases heq
  · rename_i heq
    exact absurd (Option.some.inj heq) (ne_of_isAlpha hc (by decide))
  · rename_i heq
    exact absurd (Option.some.inj heq) (ne_of_isAlpha hc (by decide))
  · rename_i heq
    obtain rfl := Option.some.inj heq
    have hanchor : ¬(c = '^' ∨ c = '$') := by
      rintro (h | h)
      · exact ne_of_isAlpha hc (by decide) h
      · exact ne_of_isAlpha hc (by decide) h
    simp [hanchor, skip, proceed, Reader.rest]

private theorem run_branches_letter (hc : c.isAlpha = true) (hs : s.flags.spaced = false)
    (fuel : Nat)
    (items earlier : List Pattern) :
    (branches (fuel + 1) items earlier).run { s with rest := c :: rest } =
      (branches fuel (.char s.flags.rule c :: items) earlier).run { s with rest } := by
  rw [branches, StateT.run_bind, run_skipBlanks { s with rest := c :: rest } hs]
  simp only [Option.bind_eq_bind, Option.bind_some, StateT.run_bind, run_peek, List.head?_cons]
  split
  case h_10 =>
    rw [StateT.run_bind, run_single hc]
    rfl
  case h_1 =>
    rename_i heq
    cases heq
  -- a letter is none of the characters with a meaning of their own
  all_goals
    rename_i heq
    exact absurd (Option.some.inj heq) (ne_of_isAlpha hc (by decide))

private theorem run_branches_bar (hs : s.flags.spaced = false) (fuel : Nat)
    (items earlier : List Pattern) :
    (branches (fuel + 1) items earlier).run { s with rest := '|' :: rest } =
      (branches fuel [] (inSequence items.reverse :: earlier)).run { s with rest } := by
  rw [branches, StateT.run_bind, run_skipBlanks { s with rest := '|' :: rest } hs]
  rfl

private theorem run_branches_end (hs : s.flags.spaced = false) (fuel : Nat)
    (items earlier : List Pattern) :
    (branches (fuel + 1) items earlier).run { s with rest := [] } =
      some (wholeOf items earlier, { s with rest := [] }) := by
  rw [branches, StateT.run_bind, run_skipBlanks { s with rest := [] } hs]
  rfl

private theorem run_branches_caseless (table : CharacterTable) (fuel : Nat)
    (items earlier : List Pattern)
    (rest : List Char) :
    (branches (fuel + 1) items earlier).run
        ⟨table, '(' :: '?' :: 'i' :: ')' :: rest, Flags.standard, 0, []⟩ =
      (branches fuel (.empty :: items) earlier).run
        ⟨table, rest, { Flags.standard with caseless := true }, 0, []⟩ :=
  rfl

private theorem run_branches_word (hword : ∀ c ∈ word, c.isAlpha = true)
    (hs : s.flags.spaced = false)
    (hrule : s.flags.rule = .unicode) (fuel : Nat) (items earlier : List Pattern) :
    (branches (fuel + word.length) items earlier).run { s with rest := word ++ rest } =
      (branches fuel ((letters word).reverse ++ items) earlier).run { s with rest } := by
  induction word generalizing items with
  | nil => rfl
  | cons c word ih =>
    obtain ⟨hc, hword⟩ := List.forall_mem_cons.1 hword
    rw [List.length_cons, ← Nat.add_assoc, List.cons_append, run_branches_letter hc hs, ih hword,
      hrule]
    simp [letters]

private theorem run_branches_barred {words : List String}
    (hwords : ∀ word ∈ words, ∀ c ∈ word.toList, c.isAlpha = true) (hs : s.flags.spaced = false)
    (hrule : s.flags.rule = .unicode) (fuel : Nat) (hitems : ∀ item ∈ items, item.depth ≤ 0)
    (hearlier : ∀ branch ∈ earlier, branch.depth ≤ 1) :
    ∃ p, (branches (fuel + 1 + (barred words).length) items earlier).run
        { s with rest := barred words } = some (p, { s with rest := [] }) ∧
      p.depth ≤ 2 ∧
      ∀ text, p.Matches text ↔
        ((sequence items.reverse).Matches text ∨ ∃ branch ∈ earlier, branch.Matches text) ∨
          ∃ word ∈ words, Text.FoldAlike text word.toList := by
  induction words generalizing items earlier with
  | nil =>
    refine ⟨wholeOf items earlier, run_branches_end hs fuel items earlier,
      depth_wholeOf_le hitems hearlier, fun text => ?_⟩
    rw [matches_wholeOf]
    simp
  | cons word words ih =>
    obtain ⟨hword, hwords⟩ := List.forall_mem_cons.1 hwords
    have hletters : ∀ item ∈ (letters word.toList).reverse ++ [], item.depth ≤ 0 := by
      intro item hitem
      rw [List.append_nil, List.mem_reverse] at hitem
      exact depth_letters hitem
    have hclosed : ∀ branch ∈ inSequence items.reverse :: earlier, branch.depth ≤ 1 :=
      List.forall_mem_cons.2 ⟨depth_reverse_le hitems, hearlier⟩
    obtain ⟨p, hrun, hdepth, hmatches⟩ := ih hwords hletters hclosed
    refine ⟨p, ?_, hdepth, fun text => ?_⟩
    · have hfuel : fuel + 1 + (barred (word :: words)).length =
          fuel + 1 + (barred words).length + word.toList.length + 1 := by
        simp only [barred, List.flatMap_cons, List.length_append, List.length_cons]
        omega
      have hbarred : barred (word :: words) = '|' :: (word.toList ++ barred words) := rfl
      rw [hfuel, hbarred, run_branches_bar hs, run_branches_word hword hs hrule, hrun]
    · rw [hmatches, List.append_nil, List.reverse_reverse, matches_letters]
      simp only [List.exists_mem_cons_iff, matches_inSequence]
      rw [or_assoc, or_left_comm]

end Reader

private theorem toList_joined (word : String) (words : List String) :
    (Text.joined "|" (word :: words)).toList = word.toList ++ barred words := by
  induction words generalizing word with
  | nil => simp [Text.joined, barred]
  | cons next words ih =>
    rw [Text.joined, String.intercalate_cons_cons, ← Text.joined, String.toList_append,
      String.toList_append, ih]
    simp [barred]

theorem ofText?_words (table : CharacterTable) {words : List String} (hne : words ≠ [])
    (hwords : ∀ word ∈ words, ∀ c ∈ word.toList, c.isAlpha = true) :
    ∃ p, ofText? table ("(?i)" ++ Text.joined "|" words) = some p ∧
      ∀ text, p.Matches text ↔ ∃ word ∈ words, Text.FoldAlike text word.toList := by
  obtain ⟨word, words, rfl⟩ := List.exists_cons_of_ne_nil hne
  obtain ⟨hword, hwords⟩ := List.forall_mem_cons.1 hwords
  let s : ReaderState := ⟨table, [], { Flags.standard with caseless := true }, 0, []⟩
  have hitems : ∀ item ∈ (letters word.toList).reverse ++ [.empty], item.depth ≤ 0 := by
    intro item hitem
    rcases List.mem_append.1 hitem with hletter | hempty
    · exact depth_letters (List.mem_reverse.1 hletter)
    · rw [List.mem_singleton.1 hempty]
      exact Nat.le_refl 0
  obtain ⟨p, hrun, hdepth, hmatches⟩ :=
    Reader.run_branches_barred (s := s) hwords rfl rfl 3 hitems (List.forall_mem_nil _)
  have htext : ("(?i)" ++ Text.joined "|" (word :: words)).toList =
      '(' :: '?' :: 'i' :: ')' :: (word.toList ++ barred words) := by
    rw [String.toList_append, toList_joined]
    rfl
  refine ⟨p, ?_, fun text => ?_⟩
  · have hfuel : ("(?i)" ++ Text.joined "|" (word :: words)).length + 1 =
        3 + 1 + (barred words).length + word.toList.length + 1 := by
      rw [← String.length_toList, htext]
      simp only [List.length_cons, List.length_append]
      omega
    have hlimit : p.depth ≤ nestingLimit := Nat.le_trans hdepth (by decide)
    rw [ofText?, hfuel, htext, Reader.run_branches_caseless,
      Reader.run_branches_word (s := s) hword rfl rfl, hrun]
    exact if_pos ⟨rfl, hlimit⟩
  · rw [hmatches]
    simp [matches_sequence_cons, matches_empty, matches_letters]

end SchemaMocks.Pattern
