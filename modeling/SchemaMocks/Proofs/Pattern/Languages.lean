import Mathlib.Algebra.Order.Monoid.Unbundled.Pow
import Mathlib.Computability.Language
import Mathlib.Order.CompletePartialOrder
import SchemaMocks.Pattern.Reduced
import SchemaMocks.Proofs.Pattern.Sets

set_option autoImplicit false
set_option relaxedAutoImplicit false

/-!
The languages of reduced patterns. Joining texts and flattening sequences and choices are laws of
the semiring of languages, sharing the beginning of branches is its distributive law, and what has
no width matches the empty text alone. So no constructor function adds a text to the language of
what it is made of.
-/

namespace SchemaMocks

namespace Reduced

open Language

def lettersOf (chars : CharSet) : Language Char :=
  {w | ∃ c, chars.contains c = true ∧ w = [c]}

def powersOf (l : Language Char) (min : Nat) (max : Option Nat) : Language Char :=
  {w | ∃ n, min ≤ n ∧ (∀ m, max = some m → n ≤ m) ∧ w ∈ l ^ n}

mutual

def language : Reduced → Language Char
  | empty => 1
  | text cs => {cs}
  | oneOf chars => lettersOf chars
  | look => 0
  | repeated body min max _ => powersOf body.language min max
  | capture _ body => body.language
  | sequence parts => productOf parts
  | choice branches => sumOf branches

def productOf : List Reduced → Language Char
  | [] => 1
  | part :: rest => part.language * productOf rest

def sumOf : List Reduced → Language Char
  | [] => 0
  | branch :: rest => branch.language + sumOf rest

end

section Lists

variable {items more : List Reduced} {w : List Char}

private theorem productOf_append (items more : List Reduced) :
    productOf (items ++ more) = productOf items * productOf more := by
  induction items with
  | nil => rw [List.nil_append, productOf, one_mul]
  | cons item rest ih => rw [List.cons_append, productOf, productOf, ih, mul_assoc]

private theorem productOf_singleton (item : Reduced) : productOf [item] = item.language := by
  rw [productOf, productOf, mul_one]

private theorem sumOf_append (items more : List Reduced) :
    sumOf (items ++ more) = sumOf items + sumOf more := by
  induction items with
  | nil => rw [List.nil_append, sumOf, zero_add]
  | cons item rest ih => rw [List.cons_append, sumOf, sumOf, ih, add_assoc]

theorem mem_sumOf : w ∈ sumOf items ↔ ∃ item ∈ items, w ∈ item.language := by
  induction items with
  | nil => simp [sumOf, notMem_zero]
  | cons item rest ih => rw [sumOf, mem_add, ih, List.exists_mem_cons_iff]

end Lists

section Sequences

variable {items : List Reduced}

private theorem productOf_parts (item : Reduced) : productOf item.parts = item.language := by
  cases item with
  | sequence items => rw [parts, language]
  | _ => exact productOf_singleton _

private theorem productOf_flatMap_parts : productOf (items.flatMap parts) = productOf items := by
  induction items with
  | nil => rfl
  | cons item rest ih =>
    rw [List.flatMap_cons, productOf_append, productOf_parts, ih, productOf]

private theorem singleton_mul_singleton (cs ds : List Char) :
    ({cs} : Language Char) * {ds} = {cs ++ ds} := by
  rw [mul_def]
  exact Set.image2_singleton

private theorem productOf_joinTexts : productOf (joinTexts items) = productOf items := by
  fun_induction joinTexts items with
  | case1 => rfl
  | case2 rest ih => rw [ih, productOf, language, one_mul]
  | case3 cs rest ds more hjoined ih =>
    rw [hjoined, productOf, language] at ih
    rw [productOf, language, productOf, language, ← ih, ← mul_assoc, singleton_mul_singleton]
  | case4 cs rest hother ih => rw [productOf, productOf, ih]
  | case5 part rest hempty htext ih => rw [productOf, productOf, ih]

theorem language_ofSequence : (ofSequence items).language = productOf items := by
  rw [← productOf_flatMap_parts, ← productOf_joinTexts]
  unfold ofSequence
  split
  · rename_i hnone
    rw [hnone, language, productOf]
  · rename_i part hsingle
    rw [hsingle, productOf_singleton]
  · rw [language]

end Sequences

section Classes

variable {set : CharSet}

theorem language_ofSet_le (set : CharSet) : (ofSet set).language ≤ lettersOf set := by
  unfold ofSet
  split
  · rename_i c hsize hfirst
    obtain ⟨d, hd, hheld⟩ := CharSet.exists_at? (by omega : 0 < set.size)
    rw [hfirst, Option.some.injEq] at hd
    rintro w rfl
    exact ⟨c, hd ▸ hheld, rfl⟩
  · rw [language]

end Classes

section Repetitions

variable {min : Nat} {max : Option Nat}

mutual

private theorem language_le_one (r : Reduced) (h : r.isWidthless = true) : r.language ≤ 1 := by
  cases r with
  | empty => rw [language]
  | look =>
    rw [language]
    exact fun w hw => hw.elim
  | text cs => cases h
  | oneOf chars => cases h
  | repeated body min max greedy =>
    rintro w ⟨n, -, hmax, hw⟩
    obtain ⟨m, rfl, hm⟩ := (Option.any_eq_true _ _).1 h
    rcases (Bool.or_eq_true_iff ..).1 hm with hzero | hbody
    · have hn := hmax m rfl
      rw [eq_of_beq hzero, Nat.le_zero] at hn
      rwa [hn, pow_zero] at hw
    · exact pow_le_one' (language_le_one body hbody) n hw
  | capture index body =>
    rw [language]
    exact language_le_one body h
  | sequence parts => exact productOf_le_one parts h
  | choice branches => exact sumOf_le_one branches h

theorem productOf_le_one (parts : List Reduced) (h : allWidthless parts = true) :
    productOf parts ≤ 1 := by
  cases parts with
  | nil => rw [productOf]
  | cons part rest =>
    obtain ⟨hpart, hrest⟩ := (Bool.and_eq_true_iff ..).1 h
    exact mul_le_one' (language_le_one part hpart) (productOf_le_one rest hrest)

theorem sumOf_le_one (branches : List Reduced) (h : allWidthless branches = true) :
    sumOf branches ≤ 1 := by
  cases branches with
  | nil =>
    rw [sumOf]
    exact fun w hw => hw.elim
  | cons branch rest =>
    obtain ⟨hbranch, hrest⟩ := (Bool.and_eq_true_iff ..).1 h
    rintro w (hw | hw)
    · exact language_le_one branch hbranch hw
    · exact sumOf_le_one rest hrest hw

end

def boundsOf (body : Reduced) (min : Nat) (max : Option Nat) : Nat × Option Nat :=
  if body.isWidthless then (Nat.min min 1, some ((max.map (Nat.min · 1)).getD 1)) else (min, max)

theorem ofRepeated_cases (body : Reduced) (min : Nat) (max : Option Nat) (greedy : Bool) :
    (ofRepeated body min max greedy = empty ∧ boundsOf body min max = (0, some 0)) ∨
    (ofRepeated body min max greedy = body ∧ boundsOf body min max = (1, some 1)) ∨
    ofRepeated body min max greedy =
      repeated body (boundsOf body min max).1 (boundsOf body min max).2 greedy := by
  unfold ofRepeated
  rw [← boundsOf]
  obtain ⟨low, high⟩ := boundsOf body min max
  dsimp only
  split
  · rename_i hnever
    exact .inl ⟨rfl, Prod.ext hnever.1 hnever.2⟩
  · split
    · rename_i honce
      exact .inr (.inl ⟨rfl, Prod.ext honce.1 honce.2⟩)
    · exact .inr (.inr rfl)

theorem boundsOf_in_order (body : Reduced) (hbounds : max.all (min ≤ ·) = true) :
    (boundsOf body min max).2.all ((boundsOf body min max).1 ≤ ·) = true := by
  unfold boundsOf
  split
  · cases max <;> simp at hbounds ⊢
    omega
  · exact hbounds

private theorem powersOf_boundsOf_le (body : Reduced) (hbounds : max.all (min ≤ ·) = true) :
    powersOf body.language (boundsOf body min max).1 (boundsOf body min max).2 ≤
      powersOf body.language min max := by
  unfold boundsOf
  split
  · rename_i hwidth
    have hone := language_le_one body hwidth
    rintro w ⟨n, hlow, hhigh, hw⟩
    have hmax := hhigh _ rfl
    have hfew : n = 0 ∧ min = 0 ∨ n = 1 ∧ max ≠ some 0 := by
      cases max <;> simp at hmax hlow ⊢ <;> omega
    rcases hfew with ⟨rfl, rfl⟩ | ⟨rfl, hroom⟩
    · exact ⟨0, Nat.le_refl 0, fun m _ => Nat.zero_le m, hw⟩
    · rw [pow_one] at hw
      by_cases hzero : min = 0
      · refine ⟨1, hzero ▸ Nat.zero_le 1, fun m hm => ?_, (pow_one body.language).symm ▸ hw⟩
        exact Nat.one_le_iff_ne_zero.2 fun h => hroom (h ▸ hm)
      · -- the empty text is the only one, and any number of it is the same
        have hnil : w = [] := hone hw
        refine ⟨min, Nat.le_refl min, fun m hm => by simpa [hm] using hbounds, ?_⟩
        exact mem_pow.2 ⟨List.replicate min [], by simpa using hnil, List.length_replicate,
          fun u hu => List.eq_of_mem_replicate hu ▸ hnil ▸ hw⟩
  · exact le_refl _

theorem language_ofRepeated_le (body : Reduced) (greedy : Bool) (hbounds : max.all (min ≤ ·) = true) :
    (ofRepeated body min max greedy).language ≤ powersOf body.language min max := by
  refine le_trans ?_ (powersOf_boundsOf_le body hbounds)
  rcases ofRepeated_cases body min max greedy with ⟨hr, hnever⟩ | ⟨hr, honce⟩ | hr
  · rw [hr, hnever, language]
    exact fun w hw => ⟨0, Nat.le_refl 0, fun m _ => Nat.zero_le m, hw⟩
  · rw [hr, honce]
    exact fun w hw => ⟨1, Nat.le_refl 1, fun m hm => Option.some.inj hm ▸ Nat.le_refl 1,
      (pow_one body.language).symm ▸ hw⟩
  · rw [hr, language]

end Repetitions

section Choices

variable {items : List Reduced} {w : List Char}

theorem exists_of_mapM {α β : Type} {f : α → Option β} {xs : List α} {ys : List β} {y : β}
    (h : xs.mapM f = some ys) (hy : y ∈ ys) : ∃ x ∈ xs, f x = some y := by
  induction xs generalizing ys with
  | nil =>
    obtain rfl : [] = ys := Option.some.inj h
    cases hy
  | cons x rest ih =>
    rw [List.mapM_cons] at h
    obtain ⟨z, hz, h⟩ := Option.bind_eq_some_iff.1 h
    obtain ⟨zs, hzs, h⟩ := Option.bind_eq_some_iff.1 h
    obtain rfl : z :: zs = ys := Option.some.inj h
    rcases List.mem_cons.1 hy with rfl | hy
    · exact ⟨x, List.mem_cons_self, hz⟩
    · obtain ⟨x', hx', hf⟩ := ih hzs hy
      exact ⟨x', List.mem_cons_of_mem x hx', hf⟩

private theorem mem_sumOf_branches (item : Reduced) :
    w ∈ sumOf item.branches ↔ w ∈ item.language := by
  cases item with
  | choice items => rw [branches, language]
  | _ => simp [branches, mem_sumOf]

private theorem mem_sumOf_flatMap_branches :
    w ∈ sumOf (items.flatMap branches) ↔ w ∈ sumOf items := by
  induction items with
  | nil => exact Iff.rfl
  | cons item rest ih =>
    rw [List.flatMap_cons, sumOf_append, mem_add, ih, mem_sumOf_branches, sumOf, mem_add]

private theorem commonFront_isPrefix (xs ys : List Reduced) :
    commonFront xs ys <+: xs ∧ commonFront xs ys <+: ys := by
  fun_induction commonFront xs ys with
  | case1 xs x ys ih =>
    exact ⟨(List.prefix_cons_inj x).2 ih.1, (List.prefix_cons_inj x).2 ih.2⟩
  | case2 => exact ⟨List.nil_prefix, List.nil_prefix⟩
  | case3 => exact ⟨List.nil_prefix, List.nil_prefix⟩

private theorem foldl_commonFront_isPrefix (first : List Reduced) (rest : List (List Reduced)) :
    rest.foldl commonFront first <+: first ∧
      ∀ parts ∈ rest, rest.foldl commonFront first <+: parts := by
  induction rest generalizing first with
  | nil => exact ⟨List.prefix_refl first, fun parts h => by cases h⟩
  | cons next rest ih =>
    obtain ⟨hfront, hothers⟩ := ih (commonFront first next)
    obtain ⟨hfirst, hnext⟩ := commonFront_isPrefix first next
    refine ⟨hfront.trans hfirst, fun parts h => ?_⟩
    rcases List.mem_cons.1 h with rfl | h
    · exact hfront.trans hnext
    · exact hothers parts h

theorem sharedFront_isPrefix {sequences : List (List Reduced)} {parts : List Reduced}
    (h : parts ∈ sequences) : sharedFront sequences <+: parts := by
  cases sequences with
  | nil => cases h
  | cons first rest =>
    rcases List.mem_cons.1 h with rfl | h
    · exact (foldl_commonFront_isPrefix parts rest).1
    · exact (foldl_commonFront_isPrefix first rest).2 parts h

private theorem contains_foldl_union {sets : List CharSet} {start : CharSet} {c : Char} :
    (sets.foldl CharSet.union start).contains c = true ↔
      start.contains c = true ∨ ∃ set ∈ sets, set.contains c = true := by
  induction sets generalizing start with
  | nil => simp
  | cons set rest ih =>
    rw [List.foldl_cons, ih, CharSet.contains_union, List.exists_mem_cons_iff, or_assoc]

private theorem eq_text_of_char? {r : Reduced} {c : Char} (h : r.char? = some c) :
    r = text [c] := by
  unfold char? at h
  split at h
  · rw [Option.some.inj h]
  · cases h

private theorem eq_oneOf_of_set? {r : Reduced} {set : CharSet} (h : r.set? = some set) :
    r = oneOf set := by
  unfold set? at h
  split at h
  · rw [Option.some.inj h]
  · cases h

theorem eq_sequence_of_sequenceParts? {r : Reduced} {parts : List Reduced}
    (h : r.sequenceParts? = some parts) : r = sequence parts := by
  unfold sequenceParts? at h
  split at h
  · rw [Option.some.inj h]
  · cases h

private theorem mem_sumOf_of_shared {sequences : List (List Reduced)}
    (h : w ∈ productOf (sharedFront sequences) *
      sumOf (sequences.map fun parts => ofSequence (parts.drop (sharedFront sequences).length))) :
    ∃ parts ∈ sequences, w ∈ productOf parts := by
  obtain ⟨u, hu, v, hv, rfl⟩ := mem_mul.1 h
  obtain ⟨item, hitem, hv⟩ := mem_sumOf.1 hv
  obtain ⟨parts, hparts, rfl⟩ := List.mem_map.1 hitem
  rw [language_ofSequence] at hv
  refine ⟨parts, hparts, ?_⟩
  rw [← List.prefix_iff_eq_append.1 (sharedFront_isPrefix hparts), productOf_append]
  exact append_mem_mul hu hv

theorem mem_sumOf_of_choiceWithin (fuel : Nat) (items : List Reduced)
    (h : w ∈ (choiceWithin fuel items).language) : w ∈ sumOf items := by
  induction fuel generalizing items w with
  | zero => rwa [choiceWithin, language] at h
  | succ fuel ih =>
    rw [← mem_sumOf_flatMap_branches, mem_sumOf]
    unfold choiceWithin at h
    split at h
    · rename_i branch hsingle
      exact ⟨branch, hsingle ▸ List.mem_singleton_self branch, h⟩
    · dsimp only at h
      split at h
      · rename_i cs _ _ hchars
        obtain ⟨c, hc, rfl⟩ := language_ofSet_le _ h
        obtain ⟨branch, hbranch, hchar⟩ := exists_of_mapM hchars (CharSet.contains_ofChars.1 hc)
        refine ⟨branch, hbranch, ?_⟩
        rw [eq_text_of_char? hchar, language]
        rfl
      · rename_i sets _ _ hsets
        obtain ⟨c, hc, rfl⟩ := language_ofSet_le _ h
        rcases contains_foldl_union.1 hc with hempty | ⟨set, hset, hc⟩
        · cases hempty
        · obtain ⟨branch, hbranch, hoftype⟩ := exists_of_mapM hsets hset
          refine ⟨branch, hbranch, ?_⟩
          rw [eq_oneOf_of_set? hoftype, language]
          exact ⟨c, hc, rfl⟩
      · rename_i sequences _ _ hsequences
        have hmatched : ∀ parts ∈ sequences, w ∈ productOf parts →
            ∃ branch ∈ items.flatMap branches, w ∈ branch.language := by
          intro parts hparts hw
          obtain ⟨branch, hbranch, hsequence⟩ := exists_of_mapM hsequences hparts
          refine ⟨branch, hbranch, ?_⟩
          rwa [eq_sequence_of_sequenceParts? hsequence, language]
        split at h
        · rw [language] at h
          exact mem_sumOf.1 h
        · rw [language_ofSequence, productOf_append, productOf_singleton] at h
          obtain ⟨u, hu, v, hv, rfl⟩ := mem_mul.1 h
          obtain ⟨parts, hparts, hw⟩ := mem_sumOf_of_shared (append_mem_mul hu (ih _ hv))
          exact hmatched parts hparts hw
      · rw [language] at h
        exact mem_sumOf.1 h

end Choices

end Reduced

end SchemaMocks
