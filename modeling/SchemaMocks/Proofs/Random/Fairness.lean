import SchemaMocks.Proofs.Random.Range

set_option autoImplicit false
set_option relaxedAutoImplicit false

/-!
Streams on which every draw ends. A draw that refuses words ends on a stream in which an accepted
word follows from every place on, and such a stream stays one.
-/

namespace SchemaMocks

/-- Whether from every place on a word follows that is accepted, for each number of choices that a
word can tell apart. -/
def WordStream.IsFair (s : WordStream) : Prop :=
  ∀ size, 0 < size → size ≤ Draw.Width.modulus .bits32 →
    ∀ start, ∃ place, start ≤ place ∧ Draw.accepts size (s.word place) = true

namespace Draw

section GivesFairly

variable {α β : Type}

def GivesFairly (draw : Draw α) (P : α → Prop) : Prop :=
  ∀ s : WordStream, s.IsFair → P (draw.run s).1 ∧ (draw.run s).2.IsFair

variable {draw : Draw α} {P : α → Prop}

theorem givesFairly_pure {a : α} (h : P a) : GivesFairly (pure a : Draw α) P :=
  fun _ hfair => ⟨h, hfair⟩

theorem GivesFairly.bind {Q : β → Prop} {next : α → Draw β} (h : GivesFairly draw P)
    (hnext : ∀ a, P a → GivesFairly (next a) Q) : GivesFairly (draw >>= next) Q := by
  intro s hfair
  obtain ⟨ha, hlater⟩ := h s hfair
  exact hnext _ ha _ hlater

theorem GivesFairly.mono {Q : α → Prop} (h : GivesFairly draw P) (himp : ∀ a, P a → Q a) :
    GivesFairly draw Q :=
  fun s hfair => ⟨himp _ (h s hfair).1, (h s hfair).2⟩

end GivesFairly

variable {size : Nat} {s : WordStream}

private theorem uniform_run (size : Nat) (s : WordStream) : (uniform size).run s =
    if accepts size (s.word s.position) then
      ((s.word s.position).toNat * size / Width.modulus .bits32,
        { s with position := s.position + 1 })
    else (uniform size).run { s with position := s.position + 1 } := by
  conv_lhs => rw [uniform, StateT.run, retrying]
  have hword {α : Type} (take : UInt32 → α) : (word >>= fun w => pure (take w) : Draw α) s =
      (take (s.word s.position), { s with position := s.position + 1 }) := rfl
  rw [hword]
  split_ifs <;> rfl

private theorem uniform_lt (hsize : 0 < size) (gap : Nat)
    (haccepted : accepts size (s.word (s.position + gap)) = true) :
    ((uniform size).run s).1 < size ∧ ((uniform size).run s).2.word = s.word := by
  induction gap generalizing s with
  | zero =>
    rw [Nat.add_zero] at haccepted
    rw [uniform_run, if_pos haccepted]
    refine ⟨Nat.div_lt_of_lt_mul (Nat.mul_lt_mul_of_pos_right ?_ hsize), rfl⟩
    exact (s.word s.position).toNat_lt
  | succ gap ih =>
    have hlater := ih (s := { s with position := s.position + 1 })
      (by rwa [Nat.add_right_comm, Nat.add_assoc])
    rw [uniform_run]
    split_ifs with hnow
    · refine ⟨Nat.div_lt_of_lt_mul (Nat.mul_lt_mul_of_pos_right ?_ hsize), rfl⟩
      exact (s.word s.position).toNat_lt
    · exact hlater

theorem givesFairly_uniform (hsize : 0 < size) (hword : size ≤ Width.modulus .bits32) :
    GivesFairly (uniform size) (· < size) := by
  intro s hfair
  obtain ⟨place, hahead, haccepted⟩ := hfair size hsize hword s.position
  obtain ⟨gap, rfl⟩ := Nat.exists_eq_add_of_le hahead
  obtain ⟨hlt, hwords⟩ := uniform_lt hsize gap haccepted
  refine ⟨hlt, ?_⟩
  rw [WordStream.IsFair, hwords]
  exact hfair

private theorem accepts_greatest (hsize : 0 < size) (hword : size ≤ Width.modulus .bits32) :
    accepts size 4294967295 = true := by
  have hmodulus : Width.modulus .bits32 = 4294967296 := rfl
  rw [hmodulus] at hword
  unfold accepts
  simp only [hmodulus, decide_eq_true_eq]
  have hgreatest : (4294967295 : UInt32).toNat = 4294967295 := rfl
  rw [hgreatest]
  obtain rfl | hless := Nat.eq_or_lt_of_le hword
  · decide
  · have hproduct : 4294967295 * size = (4294967296 - size) + 4294967296 * (size - 1) := by omega
    have hrest : (4294967296 - size) % 4294967296 = 4294967296 - size :=
      Nat.mod_eq_of_lt (by omega)
    have hsplit := Nat.div_add_mod 4294967296 size
    have hmany : size * 1 ≤ size * (4294967296 / size) :=
      Nat.mul_le_mul_left size (Nat.div_pos hword hsize)
    rw [hproduct, Nat.add_mul_mod_self_left, hrest]
    omega

end Draw

namespace WordStream

/-- The stream that repeats the greatest word. -/
def greatest : WordStream :=
  ⟨fun _ => 4294967295, 0⟩

theorem isFair_greatest : greatest.IsFair :=
  fun _ hsize hword start => ⟨start, Nat.le_refl start, Draw.accepts_greatest hsize hword⟩

end WordStream

end SchemaMocks
