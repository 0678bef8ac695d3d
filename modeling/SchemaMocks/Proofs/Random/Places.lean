import SchemaMocks.Proofs.Random.Wrapping
import SchemaMocks.Proofs.Runs.Outcome

set_option autoImplicit false
set_option relaxedAutoImplicit false

/-!
Draws at places. An item of a list is taken at a place that is drawn below the length of the list. A
guarded draw stops where there is no place to draw and where a place lies outside its list. On lists
that are not empty the guarded draws are the plain ones, whatever the stream holds.
-/

namespace SchemaMocks

/-- What stops a guarded draw. -/
inductive PlaceFault where
  | noPlace
  | outside (place size : Nat)

abbrev GuardedDraw := ExceptT PlaceFault Draw

namespace GuardedDraw

variable {α β : Type}

/-- A place in a list of a size. -/
def place (size : Nat) : GuardedDraw Nat :=
  if size = 0 then throw .noPlace else liftM (Draw.index size)

def item (items : List α) (i : Nat) : GuardedDraw α :=
  if h : i < items.length then pure items[i] else throw (.outside i items.length)

def pick (items : List α) : GuardedDraw (Option α) := do
  if items.isEmpty then return none
  else return some (← item items (← place items.length))

def times (draw : GuardedDraw α) : Nat → GuardedDraw (List α)
  | 0 => pure []
  | n + 1 => do
    let x ← draw
    let xs ← times draw n
    pure (x :: xs)

def fromCharset (charset : List Char) (length : Nat) : GuardedDraw (List Char) :=
  times (do item charset (← place charset.length)) length

def alpha (length : Nat) : GuardedDraw String := do
  return String.ofList (← fromCharset Draw.letters length)

theorem lift_bind_congr {draw : Draw α} {P : α → Prop} (h : draw.Gives P)
    {next other : α → GuardedDraw β} (hnext : ∀ a, P a → next a = other a) :
    (liftM draw >>= next : GuardedDraw β) = liftM draw >>= other := by
  funext stream
  exact congrFun (hnext _ (h stream)) (draw.run stream).2

theorem place_bind {items : List α} (h : items ≠ []) {next : Nat → GuardedDraw β}
    {plain : Nat → Draw β} (hnext : ∀ i, i < items.length → next i = liftM (plain i)) :
    place items.length >>= next = liftM (Draw.index items.length >>= plain) := by
  have hlength : 0 < items.length := List.length_pos_iff.2 h
  rw [place, if_neg hlength.ne', liftM_bind]
  exact lift_bind_congr (Draw.gives_index hlength) hnext

theorem item_of_lt {items : List α} {i : Nat} (hi : i < items.length) :
    item items i = pure items[i] :=
  dif_pos hi

private theorem pick_eq_lift (items : List α) : pick items = liftM (Draw.pick items) := by
  unfold pick Draw.pick
  split
  · rw [liftM_pure]
  · rename_i h
    refine place_bind (by simpa using h) fun i hi => ?_
    rw [item_of_lt hi, pure_bind, List.getElem?_eq_getElem hi, liftM_pure]

private theorem times_lift (draw : Draw α) (n : Nat) :
    times (liftM draw) n = liftM (Draw.times draw n) := by
  induction n with
  | zero => rw [times, Draw.times, liftM_pure]
  | succ n ih => simp only [times, Draw.times, liftM_bind, liftM_pure, ih]

private theorem fromCharset_eq_lift {charset : List Char} (h : charset ≠ []) (length : Nat) :
    fromCharset charset length = liftM (Draw.fromCharset charset length) := by
  have hchar : (do item charset (← place charset.length)) =
      (liftM (do return charset.getD (← Draw.index charset.length) ' ' : Draw Char) :
        GuardedDraw Char) := by
    refine place_bind h fun i hi => ?_
    rw [item_of_lt hi, List.getD_eq_getElem?_getD, List.getElem?_eq_getElem hi, Option.getD_some,
      liftM_pure]
  rw [fromCharset, hchar, times_lift]
  rfl

/-- From an empty set of characters nothing can be drawn. -/
example : fromCharset [] 1 = throw .noPlace := rfl

private theorem alpha_eq_lift (length : Nat) : alpha length = liftM (Draw.alpha length) := by
  have hletters : Draw.letters ≠ [] := by decide
  rw [alpha, Draw.alpha, fromCharset_eq_lift hletters, liftM_bind]
  rfl

end GuardedDraw

namespace Draw

/-- Whatever the stream holds, a number between two signed words, in either order, is the one that is
computed with words, and it does not leave the range, also where the range has all words and the word
for its size is zero. Places in lists of fewer items than there are words are computed with words
too. An item of a list, a letter and a character of a set are taken at places that the list, the
letters and the set have, where these are not empty. -/
theorem drawn_in_range :
    (∀ a b : Int64, intBetween a b = wrappingIntBetween a b ∧ ∀ stream,
      min a.toInt b.toInt ≤ ((intBetween a b).run stream).1.toInt ∧
        ((intBetween a b).run stream).1.toInt ≤ max a.toInt b.toInt) ∧
      (∀ size, 0 < size → size < Width.modulus .bits64 →
        index size = BitVec.toNat <$> wrappingBetween (.ofSize size) 0 (.ofNat _ (size - 1))) ∧
      (∀ (α : Type) (items : List α), items ≠ [] →
        GuardedDraw.pick items = liftM (pick items) ∧
          Gives (pick items) fun item => item.isSome = true) ∧
      (∀ length, GuardedDraw.alpha length = liftM (alpha length)) ∧
      ∀ (charset : List Char) (length : Nat), charset ≠ [] →
        GuardedDraw.fromCharset charset length = liftM (fromCharset charset length) := by
  refine ⟨fun a b => ⟨?_, fun stream => ?_⟩, fun size hsome hsize => ?_, fun α items hsome => ⟨?_, ?_⟩,
    fun length => ?_, fun charset length hsome => ?_⟩
  · exact intBetween_eq_wrapping a b
  · exact gives_intBetween a b stream
  · exact index_eq_wrapping hsome hsize
  · exact GuardedDraw.pick_eq_lift items
  · exact gives_pick hsome
  · exact GuardedDraw.alpha_eq_lift length
  · exact GuardedDraw.fromCharset_eq_lift hsome length

/-- Between the greatest and the least signed word the word for the size is zero; digits are drawn
from a set that is not empty. -/
theorem drawn_in_range_allWords :
    let digits := "0123456789".toList
    Int64.maxValue.toBitVec - Int64.minValue.toBitVec + 1 = 0 ∧
      (∀ stream, -9223372036854775808 ≤
        ((wrappingIntBetween Int64.maxValue Int64.minValue).run stream).1.toInt) ∧
      0 < digits.length ∧ digits.length < Width.modulus .bits64 ∧
      index digits.length = BitVec.toNat <$> wrappingBetween .bits32 0 9 ∧
      (∀ stream, ((pick digits).run stream).1.isSome = true) ∧
      GuardedDraw.fromCharset digits 3 = liftM (fromCharset digits 3) := by
  intro digits
  obtain ⟨hbetween, hindex, hpick, -, hcharset⟩ := drawn_in_range
  obtain ⟨hwrapping, hrange⟩ := hbetween Int64.maxValue Int64.minValue
  have hsome : digits ≠ [] := by decide
  have hpos : 0 < digits.length := by decide
  have hshort : digits.length < Width.modulus .bits64 := by decide
  refine ⟨by decide, fun stream => ?_, hpos, hshort, hindex _ hpos hshort,
    (hpick Char digits hsome).2, hcharset digits 3 hsome⟩
  rw [← hwrapping]
  exact (hrange stream).1

end Draw

end SchemaMocks
