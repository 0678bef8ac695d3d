import SchemaMocks.Proofs.Binary64.Magnitude
import SchemaMocks.Random.Range

set_option autoImplicit false
set_option relaxedAutoImplicit false

/-!
What draws from ranges give, whatever the stream holds: numbers that stay in their range, also where
a second word carries one; an item of a list that has one; and binary numbers that are finite.
-/

namespace SchemaMocks.Draw

section Gives

variable {α β : Type}

/-- Whatever the stream, what a draw gives has a property. -/
def Gives (draw : Draw α) (P : α → Prop) : Prop :=
  ∀ stream, P (draw.run stream).1

variable {draw : Draw α} {P : α → Prop}

theorem gives_pure {a : α} (h : P a) : Gives (pure a : Draw α) P :=
  fun _ => h

theorem gives_any : Gives draw fun _ => True :=
  fun _ => trivial

theorem Gives.mono {Q : α → Prop} (h : Gives draw P) (himp : ∀ a, P a → Q a) : Gives draw Q :=
  fun stream => himp _ (h stream)

theorem Gives.bind {Q : β → Prop} {next : α → Draw β} (h : Gives draw P)
    (hnext : ∀ a, P a → Gives (next a) Q) : Gives (draw >>= next) Q :=
  fun stream => hnext _ (h stream) (draw.run stream).2

theorem Gives.bind_congr {next other : α → Draw β} (h : Gives draw P)
    (hnext : ∀ a, P a → next a = other a) : draw >>= next = draw >>= other := by
  funext stream
  exact congrFun (hnext _ (h stream)) (draw.run stream).2

end Gives

theorem gives_wordOf (width : Width) : Gives (wordOf width) (· < width.modulus) := by
  cases width with
  | bits32 => exact gives_any.bind fun w _ => gives_pure w.toNat_lt
  | bits64 => exact gives_any.bind fun w _ => gives_pure w.toNat_lt

private theorem upper_half_lt {modulus word size carry : Nat} (hword : word < modulus)
    (hcarry : carry < size) :
    word * size / modulus < size ∧
      (modulus ≤ word * size % modulus + carry → word * size / modulus + 1 < size) := by
  have hsplit := Nat.div_add_mod (word * size) modulus
  have hproduct : (word + 1) * size ≤ modulus * size := Nat.mul_le_mul_right size hword
  rw [Nat.add_one_mul] at hproduct
  constructor
  · refine Nat.lt_of_mul_lt_mul_left (a := modulus) ?_
    omega
  · intro hoverflow
    refine Nat.lt_of_mul_lt_mul_left (a := modulus) ?_
    rw [Nat.mul_add, Nat.mul_one]
    omega

private theorem gives_offset (width : Width) {size : Nat} (hsize : 0 < size) :
    Gives (offset width size) (· < size) := by
  refine (gives_wordOf width).bind fun word hword => ?_
  have hhigh := (upper_half_lt hword hsize).1
  dsimp only
  split
  · refine (gives_wordOf width).bind fun second hsecond => gives_pure ?_
    have hcarry := (upper_half_lt hsecond hsize).1
    split
    · rename_i hoverflow
      exact (upper_half_lt hword hcarry).2 hoverflow
    · exact hhigh
  · exact gives_pure hhigh

theorem gives_between (width : Width) {low high : Int} (hrange : low ≤ high)
    (hshort : high - low + 1 < width.modulus) :
    Gives (between width low high) fun n => low ≤ n ∧ n ≤ high := by
  have hsize : (high - low + 1).toNat % width.modulus = (high - low + 1).toNat :=
    Nat.mod_eq_of_lt (by omega)
  unfold between
  simp only [hsize]
  rw [if_neg (by omega)]
  refine (gives_offset width (by omega)).bind fun n hn => gives_pure ?_
  omega

private theorem gives_signed : Gives (do return signed .bits64 (← wordOf .bits64)) fun n =>
    -9223372036854775808 ≤ n ∧ n ≤ 9223372036854775807 := by
  refine (gives_wordOf .bits64).bind fun word hword => gives_pure ?_
  have hmodulus : Width.modulus .bits64 = 18446744073709551616 := rfl
  rw [hmodulus] at hword
  simp only [signed, hmodulus]
  split <;> omega

/-- A range between signed words is not left, also where it is the range of all words. -/
theorem gives_intBetween (a b : Int64) : Gives (intBetween a b) fun n =>
    min a.toInt b.toInt ≤ n.toInt ∧ n.toInt ≤ max a.toInt b.toInt := by
  have hlow : -9223372036854775808 ≤ min a.toInt b.toInt := le_min a.le_toInt b.le_toInt
  have hhigh : max a.toInt b.toInt ≤ 9223372036854775807 :=
    max_le (Int.le_sub_one_of_lt a.toInt_lt) (Int.le_sub_one_of_lt b.toInt_lt)
  have hrange : min a.toInt b.toInt ≤ max a.toInt b.toInt := min_le_max
  unfold intBetween
  generalize min a.toInt b.toInt = low at *
  generalize max a.toInt b.toInt = high at *
  have hbetween : Gives (between .bits64 low high) fun n => low ≤ n ∧ n ≤ high := by
    have hmodulus : Width.modulus .bits64 = 18446744073709551616 := rfl
    by_cases hshort : high - low + 1 < Width.modulus .bits64
    · exact gives_between .bits64 hrange hshort
    · rw [hmodulus] at hshort
      obtain rfl : low = -9223372036854775808 := by omega
      obtain rfl : high = 9223372036854775807 := by omega
      exact gives_signed
  refine hbetween.bind fun n hn => gives_pure ?_
  rw [Int64.toInt_ofInt_of_le (by omega) (by omega)]
  exact hn

theorem gives_index {size : Nat} (hsize : 0 < size) : Gives (index size) (· < size) := by
  refine Gives.bind (P := fun n => n.toNat < size) ?_ fun n hn => gives_pure hn
  unfold between
  have hcount : ((size : Int) - 1 - 0 + 1).toNat = size := by omega
  simp only [hcount]
  generalize Width.ofSize size = width
  split
  · rename_i hall
    refine (gives_wordOf width).bind fun word hword => gives_pure ?_
    have hfits : width.modulus ≤ size := Nat.le_of_dvd hsize (Nat.dvd_of_mod_eq_zero hall)
    unfold signed
    split <;> omega
  · rename_i hsome
    refine (gives_offset width (Nat.pos_of_ne_zero hsome)).bind fun n hn => gives_pure ?_
    have hless := Nat.mod_le size width.modulus
    omega

theorem gives_pick {α : Type} {items : List α} (h : items ≠ []) :
    Gives (pick items) fun item => item.isSome = true := by
  unfold pick
  rw [if_neg (by simpa using h)]
  refine (gives_index (List.length_pos_iff.2 h)).bind fun i hi => gives_pure ?_
  rw [List.getElem?_eq_getElem hi, Option.isSome_some]

section Numbers

open Binary64

private theorem gives_unit : Gives unit (IsWithin 1) := by
  refine gives_any.bind fun word _ => gives_pure ?_
  refine isWithin_roundRatio false (twoTo_pos 52) (Nat.div_le_of_le_mul ?_) (Nat.zero_le _)
  have hwords : twoTo 12 * (twoTo 52 * twoTo 0) = 2 ^ 64 := by decide
  rw [hwords]
  exact word.toNat_lt.le

theorem gives_floatBetween {low high : Binary64} {k : Nat} (hlow : IsWithin k low)
    (hhigh : IsWithin k high) (hk : k < 900) :
    Gives (floatBetween low high) fun result => ∀ x ∈ result, IsWithin (k + 6) x := by
  unfold floatBetween
  split
  · refine gives_pure ?_
    rintro _ ⟨⟩
    exact hlow.mono (by omega)
  · have hwidth := hhigh.sub hlow (by omega)
    split
    · rename_i width heq
      rw [heq] at hwidth
      refine gives_unit.bind fun x hx => gives_pure ?_
      have hproduct := hx.mul hwidth (by omega)
      rintro _ ⟨⟩
      exact (hproduct.add (hlow.mono (by omega)) (by omega)).mono (by omega)
    · exact gives_pure fun x hx => absurd hx (Option.not_mem_none x)

end Numbers

end SchemaMocks.Draw
