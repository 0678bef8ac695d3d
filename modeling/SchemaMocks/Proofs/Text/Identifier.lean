import SchemaMocks.Text.Case

set_option autoImplicit false
set_option relaxedAutoImplicit false

/-!
Identifiers: a letter, and letters, digits and underscores after it. They are of ASCII characters,
so lower case maps each character on its own, and no slash comes up.
-/

namespace SchemaMocks.Text

def isIdentifierChar (c : Char) : Bool :=
  c.isAlphanum || c == '_'

def isIdentifier (name : String) : Bool :=
  match name.toList with
  | [] => false
  | c :: rest => c.isAlpha && rest.all isIdentifierChar

private theorem isIdentifierChar_of_mem {name : String} (h : isIdentifier name = true) :
    ∀ c ∈ name.toList, isIdentifierChar c = true := by
  unfold isIdentifier at h
  cases hname : name.toList with
  | nil => simp
  | cons c rest =>
    rw [hname] at h
    obtain ⟨hc, hrest⟩ := Bool.and_eq_true_iff.1 h
    have hfirst : isIdentifierChar c = true := by
      rw [isIdentifierChar, show c.isAlphanum = (c.isAlpha || c.isDigit) from rfl, hc]
      rfl
    exact List.forall_mem_cons.2 ⟨hfirst, List.all_eq_true.1 hrest⟩

private theorem toNat_le_of_isAlphanum {c : Char} (h : c.isAlphanum = true) :
    c.toNat ≤ 'z'.toNat := by
  rcases Bool.or_eq_true_iff.1 h with halpha | hdigit
  · rcases Bool.or_eq_true_iff.1 halpha with hupper | hlower
    · have hlast : c.toNat ≤ 'Z'.toNat := UInt32.le_iff_toNat_le.1 (of_decide_eq_true hupper).2
      exact Nat.le_trans hlast (by decide)
    · exact UInt32.le_iff_toNat_le.1 (of_decide_eq_true (Bool.and_eq_true_iff.1 hlower).2)
  · have hlast : c.toNat ≤ '9'.toNat :=
      UInt32.le_iff_toNat_le.1 (of_decide_eq_true (Bool.and_eq_true_iff.1 hdigit).2)
    exact Nat.le_trans hlast (by decide)

private theorem toNat_lt_of_isIdentifierChar {c : Char} (h : isIdentifierChar c = true) :
    c.toNat < 0x80 := by
  rcases Bool.or_eq_true_iff.1 h with halphanum | hunderscore
  · exact Nat.lt_of_le_of_lt (toNat_le_of_isAlphanum halphanum) (by decide)
  · rw [eq_of_beq hunderscore]
    decide

private theorem toLower_ne_slash {c : Char} (h : isIdentifierChar c = true) : c.toLower ≠ '/' := by
  have hall : ∀ n < 0x80, isIdentifierChar (Char.ofNat n) = true →
      (Char.ofNat n).toLower ≠ '/' := by
    decide +kernel
  have hc := hall c.toNat (toNat_lt_of_isIdentifierChar h)
  rw [Char.ofNat_toNat] at hc
  exact hc h

private theorem lowerAfter_ascii (passed : List Char) {cs : List Char}
    (h : ∀ c ∈ cs, c.toNat < 0x80) :
    lowerAfter passed cs = cs.map Char.toLower := by
  induction cs generalizing passed with
  | nil => rfl
  | cons c rest ih =>
    obtain ⟨hc, hrest⟩ := List.forall_mem_cons.1 h
    have hsigma : c ≠ 'Σ' := by rintro rfl; exact absurd hc (by decide)
    rw [lowerAfter, ih _ hrest, if_neg hsigma, lowerChar, if_pos hc]
    rfl

theorem slash_notMem_lowered {name : String} (h : isIdentifier name = true) :
    '/' ∉ (lowered name).toList := by
  have hchars := isIdentifierChar_of_mem h
  rw [lowered, String.toList_ofList,
    lowerAfter_ascii [] fun c hc => toNat_lt_of_isIdentifierChar (hchars c hc)]
  intro hslash
  obtain ⟨c, hc, hlower⟩ := List.mem_map.1 hslash
  exact toLower_ne_slash (hchars c hc) hlower

end SchemaMocks.Text
