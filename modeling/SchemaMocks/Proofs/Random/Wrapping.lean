import SchemaMocks.Proofs.Random.Range

set_option autoImplicit false
set_option relaxedAutoImplicit false

/-!
Ranges in the arithmetic of words. Words wrap: the size of the range of all words is zero, only the
halves of a product are words, and a bound and an offset may add up beyond the greatest word. A draw
from a range that computes with such words is the draw that computes with numbers.
-/

namespace SchemaMocks.Draw

def Width.bits : Width → Nat
  | bits32 => 32
  | bits64 => 64

private theorem Width.two_pow_bits (width : Width) : 2 ^ width.bits = width.modulus := by
  cases width <;> rfl

section Words

variable {w : Nat}

/-- The upper half of the product of two words. -/
def upperHalf (x y : BitVec w) : BitVec w :=
  ((x.setWidth (w + w) * y.setWidth (w + w)) >>> w).setWidth w

private theorem toNat_upperHalf (x y : BitVec w) :
    (upperHalf x y).toNat = x.toNat * y.toNat / 2 ^ w := by
  have hproduct : x.toNat * y.toNat < 2 ^ w * 2 ^ w := Nat.mul_lt_mul'' x.isLt y.isLt
  have hupper : x.toNat * y.toNat / 2 ^ w < 2 ^ w := Nat.div_lt_of_lt_mul hproduct
  have hwide : 2 ^ w ≤ 2 ^ (w + w) := Nat.pow_le_pow_right (by decide) (by omega)
  rw [← Nat.pow_add] at hproduct
  simp only [upperHalf, BitVec.toNat_setWidth, BitVec.toNat_ushiftRight, BitVec.toNat_mul,
    Nat.shiftRight_eq_div_pow]
  rw [Nat.mod_eq_of_lt (x.isLt.trans_le hwide), Nat.mod_eq_of_lt (y.isLt.trans_le hwide),
    Nat.mod_eq_of_lt hproduct, Nat.mod_eq_of_lt hupper]

private theorem ofInt_sub_add_one {low high : Int} (hrange : low ≤ high) :
    BitVec.ofInt w high - BitVec.ofInt w low + 1 = BitVec.ofNat w (high - low + 1).toNat := by
  have hdiff : BitVec.ofInt w high - BitVec.ofInt w low = BitVec.ofInt w (high - low) := by
    rw [BitVec.sub_eq_iff_eq_add, ← BitVec.ofInt_add, Int.sub_add_cancel]
  have hsize : ((high - low + 1).toNat : Int) = high - low + 1 := Int.toNat_of_nonneg (by omega)
  rw [hdiff, ← BitVec.ofInt_natCast, hsize, BitVec.ofInt_add]
  rfl

end Words

section Between

variable (width : Width)

/-- A random word. -/
def bitsOf : Draw (BitVec width.bits) := do
  return BitVec.ofNat width.bits (← wordOf width)

/-- The upper half of the product of a size and a word, and one more where the lower half and the
upper half for a second word overflow. The second word is drawn only where that is possible. -/
def wrappingOffset (size : BitVec width.bits) : Draw (BitVec width.bits) := do
  let word ← bitsOf width
  if -size < word * size then
    let carry := upperHalf (← bitsOf width) size
    pure (if BitVec.uaddOverflow (word * size) carry then upperHalf word size + 1
      else upperHalf word size)
  else pure (upperHalf word size)

/-- A word from `low` up to `high`, which may lie beyond the greatest word. -/
def wrappingBetween (low high : BitVec width.bits) : Draw (BitVec width.bits) := do
  let size := high - low + 1
  if size = 0 then bitsOf width
  else return low + (← wrappingOffset width size)

variable {width}

private theorem bitsOf_bind {β : Type} {next : BitVec width.bits → Draw β} {other : Nat → Draw β}
    (hnext : ∀ word : BitVec width.bits, next word = other word.toNat) :
    bitsOf width >>= next = wordOf width >>= other := by
  unfold bitsOf
  rw [bind_assoc]
  refine (gives_wordOf width).bind_congr fun n hn => ?_
  rw [pure_bind, hnext, BitVec.toNat_ofNat, width.two_pow_bits, Nat.mod_eq_of_lt hn]

private theorem toNat_neg_of_ne_zero {size : BitVec width.bits} (hsize : size ≠ 0) :
    (-size).toNat = width.modulus - size.toNat := by
  have hpos : size.toNat ≠ 0 := fun h => hsize (BitVec.eq_of_toNat_eq h)
  have hlt : size.toNat < width.modulus := width.two_pow_bits ▸ size.isLt
  rw [BitVec.toNat_neg, width.two_pow_bits, Nat.mod_eq_of_lt (by omega)]

private theorem map_offset {size : BitVec width.bits} (hsize : size ≠ 0) :
    BitVec.ofNat width.bits <$> offset width size.toNat = wrappingOffset width size := by
  have hupper (word : BitVec width.bits) :
      (upperHalf word size).toNat = word.toNat * size.toNat / width.modulus := by
    rw [toNat_upperHalf, width.two_pow_bits]
  have hlower (word : BitVec width.bits) :
      (word * size).toNat = word.toNat * size.toNat % width.modulus := by
    rw [BitVec.toNat_mul, width.two_pow_bits]
  unfold offset wrappingOffset
  rw [map_bind]
  refine (bitsOf_bind fun word => ?_).symm
  have hresult : BitVec.ofNat width.bits (word.toNat * size.toNat / width.modulus) =
      upperHalf word size := by
    rw [← hupper, BitVec.ofNat_toNat, BitVec.setWidth_eq]
  simp only [BitVec.lt_def, toNat_neg_of_ne_zero hsize, hlower]
  -- Both sides now ask the same questions: whether the lower half is close to overflowing, and
  -- whether it does overflow with what the second word adds.
  split
  · rw [map_bind]
    refine bitsOf_bind fun second => ?_
    simp only [BitVec.uaddOverflow, hlower, hupper, map_pure, ge_iff_le, decide_eq_true_eq,
      width.two_pow_bits]
    split
    · rw [BitVec.ofNat_add, hresult]
      rfl
    · rw [hresult]
  · rw [map_pure, hresult]

private theorem ofInt_signed (n : Nat) :
    BitVec.ofInt width.bits (signed width n) = BitVec.ofNat width.bits n := by
  apply BitVec.eq_of_toNat_eq
  unfold signed
  split
  · rw [BitVec.ofInt_natCast]
  · rw [BitVec.toNat_ofInt, width.two_pow_bits, Int.sub_emod_right, BitVec.toNat_ofNat,
      width.two_pow_bits]
    rfl

private theorem map_between {low high : Int} (hrange : low ≤ high) :
    BitVec.ofInt width.bits <$> between width low high =
      wrappingBetween width (.ofInt width.bits low) (.ofInt width.bits high) := by
  have hsize := ofInt_sub_add_one (w := width.bits) hrange
  have htoNat : (BitVec.ofNat width.bits (high - low + 1).toNat).toNat =
      (high - low + 1).toNat % width.modulus := by
    rw [BitVec.toNat_ofNat, width.two_pow_bits]
  unfold between wrappingBetween
  simp only [hsize, ← htoNat]
  generalize BitVec.ofNat width.bits (high - low + 1).toNat = size
  by_cases hzero : size = 0
  · have hnone : size.toNat = 0 := by simp [hzero]
    rw [if_pos hzero, if_pos hnone, bitsOf, map_bind]
    congr 1
    funext n
    rw [map_pure, ofInt_signed]
  · have hsome : size.toNat ≠ 0 := fun h => hzero (BitVec.eq_of_toNat_eq h)
    rw [if_neg hzero, if_neg hsome, ← map_offset hzero, map_bind, bind_map_left]
    congr 1
    funext n
    rw [map_pure, BitVec.ofInt_add, BitVec.ofInt_natCast]

end Between

/-- A number between two signed words, in either order, computed with words. -/
def wrappingIntBetween (a b : Int64) : Draw Int64 := do
  let (low, high) := if a ≤ b then (a, b) else (b, a)
  return .ofBitVec (← wrappingBetween .bits64 low.toBitVec high.toBitVec)

private theorem map_between_toInt {low high : Int64} (hrange : low.toInt ≤ high.toInt) :
    Int64.ofInt <$> between .bits64 low.toInt high.toInt =
      Int64.ofBitVec <$> wrappingBetween .bits64 low.toBitVec high.toBitVec := by
  have hwords : BitVec.ofInt 64 <$> between .bits64 low.toInt high.toInt =
      wrappingBetween .bits64 (.ofInt 64 low.toInt) (.ofInt 64 high.toInt) := map_between hrange
  rw [BitVec.ofInt_int64ToInt, BitVec.ofInt_int64ToInt] at hwords
  rw [← hwords, Functor.map_map]
  rfl

theorem intBetween_eq_wrapping (a b : Int64) : intBetween a b = wrappingIntBetween a b := by
  unfold intBetween wrappingIntBetween
  by_cases h : a ≤ b
  · rw [if_pos h]
    rw [Int64.le_iff_toInt_le] at h
    simp only [min_eq_left h, max_eq_right h]
    exact map_between_toInt h
  · rw [if_neg h]
    rw [Int64.le_iff_toInt_le, not_le] at h
    simp only [min_eq_right h.le, max_eq_left h.le]
    exact map_between_toInt h.le

private theorem Width.lt_modulus_ofSize {size : Nat} (hsize : size < Width.modulus .bits64) :
    size < (Width.ofSize size).modulus := by
  unfold ofSize
  split
  · assumption
  · exact hsize

/-- A place in a list is computed with words that have as many bits as its size. -/
theorem index_eq_wrapping {size : Nat} (hsome : 0 < size) (hsize : size < Width.modulus .bits64) :
    index size =
      BitVec.toNat <$> wrappingBetween (.ofSize size) 0 (.ofNat _ (size - 1)) := by
  have hshort := Width.lt_modulus_ofSize hsize
  unfold index
  generalize Width.ofSize size = width at hshort ⊢
  have hlast : ((size - 1 : Nat) : Int) = (size : Int) - 1 := by omega
  have hrange : (0 : Int) ≤ (size : Int) - 1 := by omega
  have hwords : BitVec.ofInt width.bits <$> between width 0 ((size : Int) - 1) =
      wrappingBetween width 0 (.ofNat _ (size - 1)) := by
    rw [← BitVec.ofInt_natCast, hlast]
    exact map_between hrange
  rw [← hwords, Functor.map_map, ← bind_pure_comp]
  refine (gives_between width hrange (by omega)).bind_congr fun n hn => congrArg pure ?_
  rw [BitVec.toNat_ofInt, width.two_pow_bits, Int.emod_eq_of_lt hn.1 (by omega)]

end SchemaMocks.Draw
