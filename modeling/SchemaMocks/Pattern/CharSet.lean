import SchemaMocks.Text.Case

set_option autoImplicit false
set_option relaxedAutoImplicit false

/-!
Sets of characters. The characters are numbered without the gap of the surrogates; a set is a list
of spans of such numbers in ascending order that do not touch. Inserting a span keeps this order, and
every operation is built from insertion.
-/

namespace SchemaMocks

def CharSet.charCount : Nat := 0x110000 - 0x800

/-- Spans from their first number up to one past their last, in ascending order, apart, and within
the numbers of characters. -/
def CharSet.Separated (spans : List (Nat × Nat)) : Prop :=
  spans.Pairwise (fun a b => a.2 < b.1) ∧ ∀ s ∈ spans, s.1 < s.2 ∧ s.2 ≤ charCount

structure CharSet where
  spans : List (Nat × Nat)
  separated : CharSet.Separated spans
  deriving DecidableEq

namespace CharSet

def rank (c : Char) : Nat :=
  if c.toNat < 0xD800 then c.toNat else c.toNat - 0x800

def ofRank (n : Nat) : Char :=
  if n < 0xD800 then Char.ofNat n else Char.ofNat (n + 0x800)

/-- Inserts a span and merges it with all that it touches. -/
def insertSpan (low stop : Nat) : List (Nat × Nat) → List (Nat × Nat)
  | [] => [(low, stop)]
  | (a, b) :: rest =>
    if stop < a then (low, stop) :: (a, b) :: rest
    else if b < low then (a, b) :: insertSpan low stop rest
    else insertSpan (min low a) (max stop b) rest

private theorem start_of_mem_insertSpan {low stop : Nat} {spans : List (Nat × Nat)} {s : Nat × Nat}
    (h : s ∈ insertSpan low stop spans) : low ≤ s.1 ∨ ∃ t ∈ spans, t.1 ≤ s.1 := by
  induction spans generalizing low stop with
  | nil => simp_all [insertSpan]
  | cons t rest ih =>
    obtain ⟨a, b⟩ := t
    simp only [insertSpan] at h
    split at h
    · rcases List.mem_cons.1 h with rfl | h
      · exact Or.inl (Nat.le_refl _)
      · exact Or.inr ⟨s, h, Nat.le_refl _⟩
    · split at h
      · rcases List.mem_cons.1 h with rfl | h
        · exact Or.inr ⟨_, List.mem_cons_self, Nat.le_refl _⟩
        · rcases ih h with h | ⟨t, ht, h⟩
          · exact Or.inl h
          · exact Or.inr ⟨t, List.mem_cons_of_mem _ ht, h⟩
      · rcases ih h with h | ⟨t, ht, h⟩
        · rcases Nat.le_total low a with hla | hla
          · exact Or.inl (by omega)
          · exact Or.inr ⟨(a, b), List.mem_cons_self, by simp only; omega⟩
        · exact Or.inr ⟨t, List.mem_cons_of_mem _ ht, h⟩

private theorem separated_insertSpan {low stop : Nat} (hlt : low < stop) (hstop : stop ≤ charCount)
    {spans : List (Nat × Nat)} (h : Separated spans) : Separated (insertSpan low stop spans) := by
  induction spans generalizing low stop with
  | nil => exact ⟨List.pairwise_singleton _ _, by simpa [insertSpan] using ⟨hlt, hstop⟩⟩
  | cons t rest ih =>
    obtain ⟨a, b⟩ := t
    obtain ⟨hpair, hpos⟩ := h
    have hpair' := List.pairwise_cons.1 hpair
    have hab : a < b ∧ b ≤ charCount := hpos (a, b) List.mem_cons_self
    have hrest : Separated rest :=
      ⟨hpair'.2, fun s hs => hpos s (List.mem_cons_of_mem _ hs)⟩
    simp only [insertSpan]
    split
    · rename_i hbefore
      refine ⟨List.pairwise_cons.2 ⟨fun s hs => ?_, hpair⟩, fun s hs => ?_⟩
      · rcases List.mem_cons.1 hs with rfl | hs
        · exact hbefore
        · have := hpair'.1 s hs
          simp only at this ⊢
          omega
      · rcases List.mem_cons.1 hs with rfl | hs
        · exact ⟨hlt, hstop⟩
        · exact hpos s hs
    · split
      · rename_i hb
        have hins := ih hlt hstop hrest
        refine ⟨List.pairwise_cons.2 ⟨fun s hs => ?_, hins.1⟩, fun s hs => ?_⟩
        · rcases start_of_mem_insertSpan hs with h | ⟨t, ht, h⟩
          · simp only
            omega
          · have := hpair'.1 t ht
            simp only at this ⊢
            omega
        · rcases List.mem_cons.1 hs with rfl | hs
          · exact hab
          · exact hins.2 s hs
      · exact ih (by omega) (by omega) hrest

def empty : CharSet :=
  ⟨[], List.Pairwise.nil, by simp⟩

instance : Inhabited CharSet := ⟨empty⟩

/-- A set with the characters of a span. -/
def insert (set : CharSet) (low stop : Nat) : CharSet :=
  if h : low < min stop charCount then
    ⟨insertSpan low (min stop charCount) set.spans,
      separated_insertSpan h (Nat.min_le_right _ _) set.separated⟩
  else set

def ofSpans (spans : List (Nat × Nat)) : CharSet :=
  spans.foldr (fun (low, stop) set => set.insert low stop) empty

def range (first last : Char) : CharSet :=
  empty.insert (rank first) (rank last + 1)

def singleton (c : Char) : CharSet :=
  range c c

def ofCodeRanges (ranges : List (Nat × Nat)) : CharSet :=
  ofSpans (ranges.map fun (first, last) => (rank (Char.ofNat first), rank (Char.ofNat last) + 1))

def ofChars (cs : List Char) : CharSet :=
  ofSpans (cs.map fun c => (rank c, rank c + 1))

def contains (set : CharSet) (c : Char) : Bool :=
  set.spans.any fun (low, stop) => low ≤ rank c && rank c < stop

def size (set : CharSet) : Nat :=
  set.spans.foldl (fun n (low, stop) => n + (stop - low)) 0

def spanAt? : List (Nat × Nat) → Nat → Option Char
  | [], _ => none
  | (low, stop) :: rest, i =>
    if i < stop - low then some (ofRank (low + i)) else spanAt? rest (i - (stop - low))

def at? (set : CharSet) (i : Nat) : Option Char :=
  spanAt? set.spans i

def gaps (stop : Nat) : Nat → List (Nat × Nat) → List (Nat × Nat)
  | start, [] => [(start, stop)]
  | start, (a, b) :: rest => (start, min a stop) :: gaps stop b rest

def complement (count : Nat) (set : CharSet) : CharSet :=
  ofSpans (gaps count 0 set.spans)

def union (a b : CharSet) : CharSet :=
  a.spans.foldr (fun (low, stop) set => set.insert low stop) b

def intersection (a b : CharSet) : CharSet :=
  complement charCount ((complement charCount a).union (complement charCount b))

def difference (a b : CharSet) : CharSet :=
  a.intersection (complement charCount b)

def symmetricDifference (a b : CharSet) : CharSet :=
  (a.union b).difference (a.intersection b)

def isAscii (set : CharSet) : Bool :=
  set.spans.all fun (_, stop) => stop ≤ 0x80

end CharSet

/-- Which characters count as the same. -/
inductive CaseRule where
  | exact
  | ascii
  | unicode
  deriving DecidableEq

namespace CaseRule

/-- The character that stands for all that count as the same. -/
def fold : CaseRule → Char → Char
  | exact => id
  | ascii => Char.toLower
  | unicode => Text.fold

/-- Characters that may differ from the one that stands for them, every one that does among them. -/
def variants : CaseRule → List Char
  | exact => []
  | ascii => (List.range 26).map fun i => Char.ofNat (0x41 + i)
  | unicode => (Text.foldRuns.map fun run =>
      (List.range ((run.last - run.first) / run.step + 1)).map fun i =>
        Char.ofNat (run.first + i * run.step)).flatten

/-- A set with every character that counts as the same as one of it. -/
def close (rule : CaseRule) (set : CharSet) : CharSet :=
  let variants := rule.variants
  let folded := (variants.filter set.contains).map rule.fold
  let grown := set.union (CharSet.ofChars folded)
  grown.union (CharSet.ofChars (variants.filter fun c => grown.contains (rule.fold c)))

def siblings (rule : CaseRule) (c : Char) : CharSet :=
  let target := rule.fold c
  CharSet.ofChars (target :: match rule with
    | exact => []
    | ascii => [target.toUpper]
    | unicode => Text.foldSiblings target)

end CaseRule

end SchemaMocks
