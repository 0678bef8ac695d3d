import Mathlib.Data.String.Basic
import Mathlib.Tactic.SplitIfs
import SchemaMocks.Text.Dictionary

set_option autoImplicit false
set_option relaxedAutoImplicit false

/-!
The order of texts. Texts are compared character by character; this is the same as comparing their
UTF-8 bytes one by one.
-/

namespace SchemaMocks.Text

def bytes (s : String) : List UInt8 :=
  s.toUTF8.data.toList

/-- Whether the bytes of a text come before those of another. -/
def BytesBefore (s t : String) : Prop :=
  bytes s < bytes t

private theorem bytes_eq_flatMap (s : String) :
    bytes s = s.toList.flatMap String.utf8EncodeChar := by
  have h : s.toUTF8 = s.toList.utf8Encode := String.utf8Encode_toList.symm
  rw [bytes, h, List.utf8Encode]
  simp

private theorem digits_lt {v w : Nat} (h : v < w) :
    v / 64 < w / 64 ∨ v / 64 = w / 64 ∧ v % 64 < w % 64 := by
  omega

private theorem encodeChar_append_lt {c d : Char} (h : c < d) (xs ys : List UInt8) :
    String.utf8EncodeChar c ++ xs < String.utf8EncodeChar d ++ ys := by
  have hlt : c.val.toNat < d.val.toNat := h
  have hmax : d.val.toNat < 1114112 := by
    have hd := d.valid
    simp only [UInt32.isValidChar, Nat.isValidChar] at hd
    omega
  simp only [String.utf8EncodeChar]
  generalize c.val.toNat = v at *
  generalize d.val.toNat = w at *
  have hdiv (n : Nat) : n / 4096 = n / 64 / 64 ∧ n / 262144 = n / 64 / 64 / 64 := by
    simp only [Nat.div_div_eq_div_mul, and_self]
  rw [(hdiv v).1, (hdiv v).2, (hdiv w).1, (hdiv w).2]
  -- Encodings of different lengths differ in their first byte; those of one length differ where
  -- the code points first differ in base 64.
  split_ifs <;>
    simp only [List.cons_append, List.nil_append, List.cons_lt_cons_iff, UInt8.lt_iff_toNat_lt,
      ← UInt8.toNat_inj, UInt8.toNat_ofNat'] <;>
    rcases digits_lt hlt with high | ⟨high, low⟩ <;>
    omega

private theorem flatMap_encodeChar_lt {cs ds : List Char} (h : cs < ds) :
    cs.flatMap String.utf8EncodeChar < ds.flatMap String.utf8EncodeChar := by
  induction cs generalizing ds with
  | nil =>
    cases ds with
    | nil => exact absurd h (List.lt_irrefl _)
    | cons d ds =>
      obtain ⟨b, bs, hb⟩ := List.exists_cons_of_ne_nil (String.utf8EncodeChar_ne_nil (c := d))
      simp [hb]
  | cons c cs ih =>
    cases ds with
    | nil => cases h
    | cons d ds =>
      simp only [List.flatMap_cons]
      rcases List.cons_lt_cons_iff.1 h with hcd | ⟨rfl, htail⟩
      · exact encodeChar_append_lt hcd _ _
      · exact List.append_left_lt (ih htail)

theorem lt_iff_bytesBefore (s t : String) : s < t ↔ BytesBefore s t := by
  have forward : ∀ {s t : String}, s < t → BytesBefore s t := fun h => by
    rw [BytesBefore, bytes_eq_flatMap, bytes_eq_flatMap]
    exact flatMap_encodeChar_lt h
  refine ⟨forward, fun h => ?_⟩
  rcases lt_trichotomy s t with hlt | rfl | hgt
  · exact hlt
  · exact absurd h (List.lt_irrefl _)
  · exact absurd h (List.lt_asymm (forward hgt))

end SchemaMocks.Text
