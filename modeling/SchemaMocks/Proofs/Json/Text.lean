import Mathlib.Data.List.Forall2
import SchemaMocks.Json.Printer

set_option autoImplicit false
set_option relaxedAutoImplicit false

/-!
The texts of JSON values without white space, by the rules of the format, and the printer measured
against them: what is printed is a text of the value, and no character of it stands below the space.
-/

namespace SchemaMocks.Json

/-! ### Numerals -/

def IsDigits (cs : List Char) : Prop :=
  cs ≠ [] ∧ ∀ c ∈ cs, c.isDigit = true

def IsWhole (cs : List Char) : Prop :=
  IsDigits cs ∧ (cs.head? = some '0' → cs = ['0'])

def IsFraction (cs : List Char) : Prop :=
  cs = [] ∨ ∃ digits, IsDigits digits ∧ cs = '.' :: digits

def IsExponent (cs : List Char) : Prop :=
  cs = [] ∨ ∃ mark sign digits, mark ∈ ['e', 'E'] ∧ sign ∈ [[], ['+'], ['-']] ∧ IsDigits digits ∧
    cs = mark :: (sign ++ digits)

def IsUnsigned (cs : List Char) : Prop :=
  ∃ whole fraction exponent, IsWhole whole ∧ IsFraction fraction ∧ IsExponent exponent ∧
    cs = whole ++ fraction ++ exponent

def IsNumeral (cs : List Char) : Prop :=
  ∃ sign body, sign ∈ [[], ['-']] ∧ IsUnsigned body ∧ cs = sign ++ body

section Numerals

theorem isDigits_toDigits (n : Nat) : IsDigits (Nat.toDigits 10 n) :=
  ⟨Nat.toDigits_ne_nil, fun _ hc => Nat.isDigit_of_mem_toDigits (by decide) (by decide) hc⟩

private theorem digitChar_ne_zero {n : Nat} (hn : n ≠ 0) (hlt : n < 10) : n.digitChar ≠ '0' := by
  have hall : ∀ m : Fin 10, m.val ≠ 0 → m.val.digitChar ≠ '0' := by decide
  exact hall ⟨n, hlt⟩ hn

private theorem head?_toDigits_ne {n : Nat} (hn : n ≠ 0) :
    (Nat.toDigits 10 n).head? ≠ some '0' := by
  induction n using Nat.strongRecOn with
  | ind n ih =>
    by_cases hlt : n < 10
    · rw [Nat.toDigits_of_lt_base hlt]
      simpa using digitChar_ne_zero hn hlt
    · have hquotient : n / 10 ≠ 0 := by omega
      rw [Nat.toDigits_of_base_le (by decide) (by omega),
        List.head?_append_of_ne_nil _ Nat.toDigits_ne_nil]
      exact ih (n / 10) (by omega) hquotient

theorem isWhole_toDigits (n : Nat) : IsWhole (Nat.toDigits 10 n) := by
  refine ⟨isDigits_toDigits n, fun hhead => ?_⟩
  by_cases hn : n = 0
  · rw [hn]
    rfl
  · exact absurd hhead (head?_toDigits_ne hn)

theorem toList_toString (n : Nat) : (toString n).toList = Nat.toDigits 10 n := by
  rw [Nat.toString_eq_ofList_toDigits, String.toList_ofList]

private theorem IsWhole.isUnsigned {cs : List Char} (h : IsWhole cs) : IsUnsigned cs :=
  ⟨cs, [], [], h, .inl rfl, .inl rfl, by simp⟩

private theorem isNumeral_int (n : Int) : IsNumeral (toString n).toList := by
  cases n with
  | ofNat n =>
    have htext : toString (Int.ofNat n) = toString n := rfl
    rw [htext, toList_toString]
    exact ⟨[], _, by simp, (isWhole_toDigits n).isUnsigned, rfl⟩
  | negSucc n =>
    have htext : toString (Int.negSucc n) = "-" ++ toString (n + 1) := rfl
    rw [htext, String.toList_append, toList_toString]
    exact ⟨['-'], _, by simp, (isWhole_toDigits (n + 1)).isUnsigned, rfl⟩

private theorem isDigit_of_mem_replicate {n : Nat} {c : Char} (h : c ∈ List.replicate n '0') :
    c.isDigit = true := by
  rw [List.eq_of_mem_replicate h]
  decide

theorem isWhole_digit {c : Char} (h : c.isDigit = true) : IsWhole [c] :=
  ⟨⟨by simp, by simpa using h⟩, fun hhead => by simpa using hhead⟩

section Layout

variable {cs : List Char}

private theorem isWhole_padded (h : IsWhole cs) (n : Nat) (hn : cs = ['0'] → n = 0) :
    IsWhole (cs ++ List.replicate n '0') := by
  have hdigits : IsDigits (cs ++ List.replicate n '0') := by
    refine ⟨by simp [h.1.1], fun c hc => ?_⟩
    rcases List.mem_append.1 hc with hc | hc
    · exact h.1.2 c hc
    · exact isDigit_of_mem_replicate hc
  refine ⟨hdigits, fun hhead => ?_⟩
  rw [List.head?_append_of_ne_nil _ h.1.1] at hhead
  have hzero := h.2 hhead
  rw [hzero, hn hzero]
  rfl

private theorem isWhole_take (h : IsWhole cs) {n : Nat} (hpos : 0 < n) (hlt : n < cs.length) :
    IsWhole (cs.take n) := by
  have htake : cs.take n ≠ [] := by
    rw [← List.length_pos_iff, List.length_take]
    omega
  refine ⟨⟨htake, fun c hc => h.1.2 c (List.mem_of_mem_take hc)⟩, fun hhead => ?_⟩
  rw [List.head?_take, if_neg (by omega)] at hhead
  have hone : cs.length = 1 := congrArg List.length (h.2 hhead)
  omega

private theorem isDigits_drop (h : IsDigits cs) {n : Nat} (hlt : n < cs.length) :
    IsDigits (cs.drop n) := by
  refine ⟨?_, fun c hc => h.2 c (List.mem_of_mem_drop hc)⟩
  rw [← List.length_pos_iff, List.length_drop]
  omega

theorem isDigits_padded (h : IsDigits cs) (n : Nat) : IsDigits (List.replicate n '0' ++ cs) := by
  refine ⟨by simp [h.1], fun c hc => ?_⟩
  rcases List.mem_append.1 hc with hc | hc
  · exact isDigit_of_mem_replicate hc
  · exact h.2 c hc

private theorem isUnsigned_scientific {first : Char} {rest : List Char}
    (h : IsWhole (first :: rest))
    {sign : Char} (hsign : sign = '-' ∨ sign = '+') (n : Nat) :
    IsUnsigned ((if rest.isEmpty then [first] else first :: '.' :: rest) ++
      'e' :: sign :: Nat.toDigits 10 n) := by
  obtain ⟨hfirst, hrest⟩ := List.forall_mem_cons.1 h.1.2
  have hexponent : IsExponent ('e' :: sign :: Nat.toDigits 10 n) := by
    refine .inr ⟨'e', [sign], _, by simp, ?_, isDigits_toDigits n, rfl⟩
    rcases hsign with rfl | rfl <;> simp
  cases rest with
  | nil => exact ⟨[first], [], _, isWhole_digit hfirst, .inl rfl, hexponent, rfl⟩
  | cons second others =>
    exact ⟨[first], '.' :: second :: others, _, isWhole_digit hfirst,
      .inr ⟨_, ⟨List.cons_ne_nil _ _, hrest⟩, rfl⟩, hexponent, rfl⟩

end Layout

def IsSettable (d : Decimal) : Prop :=
  d.digits = 0 → d.power ≤ 0

def IsPositional (cs : List Char) : Prop :=
  ∃ whole part, IsWhole whole ∧ whole.length ≤ 16 ∧ IsDigits part ∧ cs = whole ++ '.' :: part

/-- The first digit of a decimal, the others behind a point, and the exponent of the first. -/
def IsScientific (d : Decimal) (cs : List Char) : Prop :=
  ∃ first part, Nat.toDigits 10 d.digits = first :: part ∧
    cs = (if part.isEmpty then [first] else first :: '.' :: part) ++
      'e' :: (if d.power + part.length < 0 then '-' else '+') ::
        Nat.toDigits 10 (d.power + part.length).natAbs

theorem set_json {d : Decimal} (h : IsSettable d) :
    IsPositional (DecimalLayout.json.set d).toList ∨
      IsScientific d (DecimalLayout.json.set d).toList := by
  have hwhole := isWhole_toDigits d.digits
  have hzero : Nat.toDigits 10 d.digits = ['0'] → d.digits = 0 := by
    intro htext
    by_contra hne
    exact head?_toDigits_ne hne (by rw [htext]; rfl)
  have hsize : 0 < (Nat.toDigits 10 d.digits).length := Nat.length_toDigits_pos
  unfold DecimalLayout.set IsScientific
  rw [toList_toString]
  generalize Nat.toDigits 10 d.digits = cs at hwhole hzero hsize ⊢
  dsimp only [DecimalLayout.json]
  split
  · rename_i hpositional
    obtain ⟨hlow, hhigh⟩ := Bool.and_eq_true_iff.1 hpositional
    rw [decide_eq_true_eq] at hlow hhigh
    left
    split
    · rename_i hpower
      have hn : cs = ['0'] → d.power.toNat = 0 := by
        intro htext
        have hbelow := h (hzero htext)
        omega
      refine ⟨_, ['0'], isWhole_padded hwhole d.power.toNat hn, ?_, (isWhole_digit rfl).1, by simp⟩
      rw [List.length_append, List.length_replicate]
      omega
    · rename_i hpower
      split
      · rename_i hexponent
        generalize hn : (d.power + cs.length - 1 + 1).toNat = n
        refine ⟨_, _, isWhole_take hwhole (n := n) (by omega) (by omega), ?_,
          isDigits_drop hwhole.1 (by omega), String.toList_ofList⟩
        rw [List.length_take]
        omega
      · exact ⟨['0'], _, isWhole_digit rfl, by simp,
          isDigits_padded hwhole.1 (-(d.power + cs.length - 1) - 1).toNat, by simp⟩
  · right
    cases cs with
    | nil => cases hsize
    | cons first rest =>
      refine ⟨first, rest, rfl, ?_⟩
      have hexponent : d.power + (first :: rest).length - 1 = d.power + rest.length := by
        rw [List.length_cons]
        omega
      rw [hexponent]
      by_cases hbelow : d.power + rest.length < 0 <;> simp [hbelow]

private theorem isUnsigned_set {d : Decimal} (h : IsSettable d) :
    IsUnsigned (DecimalLayout.json.set d).toList := by
  rcases set_json h with ⟨whole, part, hwhole, -, hpart, htext⟩ | ⟨first, part, hdigits, htext⟩
  · rw [htext]
    exact ⟨whole, '.' :: part, [], hwhole, .inr ⟨part, hpart, rfl⟩, .inl rfl, by simp⟩
  · have hwhole := isWhole_toDigits d.digits
    rw [hdigits] at hwhole
    rw [htext]
    refine isUnsigned_scientific hwhole ?_ _
    split
    · exact .inl rfl
    · exact .inr rfl

section Shortest

variable {n : Finite64.Neighbourhood} {tie : TieRule} {power : Int}

private theorem multipleAt_ne_zero {digits : Nat}
    (h : Finite64.multipleAt n tie power = some digits) : digits ≠ 0 := by
  unfold Finite64.multipleAt at h
  dsimp only at h
  generalize n.value * tenTo (-power).toNat / (n.denominator * tenTo power.toNat) = k at h
  split at h
  · rename_i hdown hup
    have hk : k ≠ 0 := by simpa using (Bool.and_eq_true_iff.1 hdown).2
    split at h
    · cases h
      exact hk
    · split at h
      · cases h
        exact Nat.succ_ne_zero k
      · split at h <;> cases h
        · split
          · exact hk
          · exact Nat.succ_ne_zero k
        · exact Nat.succ_ne_zero k
  · rename_i hdown hup
    cases h
    simpa using (Bool.and_eq_true_iff.1 hdown).2
  · cases h
    exact Nat.succ_ne_zero k
  · cases h

private theorem shortestFrom_zero {tries : Nat}
    (h : (Finite64.shortestFrom n tie tries power).digits = 0) :
    (Finite64.shortestFrom n tie tries power).power = power - tries ∧
      n.value / n.denominator = 0 := by
  induction tries generalizing power with
  | zero => exact ⟨by simp [Finite64.shortestFrom], h⟩
  | succ tries ih =>
    unfold Finite64.shortestFrom at h ⊢
    split at h
    · rename_i digits hdigits
      exact absurd h (multipleAt_ne_zero hdigits)
    · rename_i hnone
      obtain ⟨hpower, hvalue⟩ := ih h
      refine ⟨?_, hvalue⟩
      rw [hpower]
      omega

theorem isSettable_shortest {x : Finite64} (hx : x.isZero = false) (tie : TieRule) :
    IsSettable (x.shortest tie) := by
  intro hdigits
  obtain ⟨hpower, hvalue⟩ := shortestFrom_zero hdigits
  have hsignificand : x.significand ≠ 0 := by simpa [Finite64.isZero] using hx
  have hstandard : x.significand < 2 ^ 53 := x.standard.1
  have hlog : x.significand.log2 < 53 := (Nat.log2_lt hsignificand).2 hstandard
  -- a value below one has a small exponent, and 40 tries lead from there below the point
  have hexponent : x.exponent < 2 := by
    by_contra hlarge
    have hone : x.neighbourhood.denominator = 1 := by
      have hnone : (2 - x.exponent).toNat = 0 := by omega
      rw [Finite64.neighbourhood, hnone, twoTo_zero]
    have hpos : 0 < x.neighbourhood.value :=
      Nat.mul_pos (by omega) (twoTo_pos _)
    rw [hone, Nat.div_one] at hvalue
    omega
  change (Finite64.shortestFrom _ _ _ _).power ≤ 0
  rw [hpower, Int.fdiv_eq_ediv_of_nonneg _ (by decide)]
  omega

end Shortest

theorem isNumeral_text (n : Number) : IsNumeral n.text.toList := by
  cases n with
  | integer value fits => exact isNumeral_int value
  | decimal x =>
    have hsettable : IsSettable (if x.isZero then ⟨0, 0⟩ else x.shortest DecimalLayout.json.tie) := by
      split
      · exact fun _ => Int.le_refl 0
      · rename_i hx
        exact isSettable_shortest (Bool.eq_false_iff.2 hx) _
    have hbody := isUnsigned_set hsettable
    unfold Number.text Finite64.format
    dsimp only
    rw [String.toList_append]
    cases x.negative with
    | false => exact ⟨[], _, by simp, hbody, rfl⟩
    | true => exact ⟨['-'], _, by simp, hbody, rfl⟩

end Numerals

/-! ### Strings and values -/

def shortEscapes : List (Char × Char) :=
  [('\"', '\"'), ('\\', '\\'), ('/', '/'), ('b', '\x08'), ('f', '\x0c'), ('n', '\n'), ('r', '\r'),
    ('t', '\t')]

/-- The ways to write a character in a string: as it is, by a mark, or by its number. -/
inductive IsWritten : Char → List Char → Prop
  | plain {c : Char} (visible : 0x20 ≤ c.toNat) (quote : c ≠ '\"') (backslash : c ≠ '\\') :
      IsWritten c [c]
  | short {mark c : Char} (escape : (mark, c) ∈ shortEscapes) : IsWritten c ['\\', mark]
  | code {c : Char} (a b d e : Fin 16) (number : c.toNat = ((a * 16 + b) * 16 + d) * 16 + e) :
      IsWritten c ('\\' :: 'u' :: [a, b, d, e].map fun digit => Nat.digitChar digit)

def IsQuoted (s cs : List Char) : Prop :=
  ∃ pieces, List.Forall₂ IsWritten s pieces ∧ cs = '\"' :: (pieces.flatten ++ ['\"'])

mutual

/-- The text of a value. -/
inductive IsText : Json → List Char → Prop
  | null : IsText .null "null".toList
  | true : IsText (.bool true) "true".toList
  | false : IsText (.bool false) "false".toList
  | number {n : Number} (numeral : IsNumeral n.text.toList) : IsText (.number n) n.text.toList
  | string {s : String} {cs : List Char} (quoted : IsQuoted s.toList cs) : IsText (.string s) cs
  | array {items : List Json} {texts : List (List Char)} (each : List.Forall₂ IsText items texts) :
      IsText (.array items) ('[' :: ([','].intercalate texts ++ [']']))
  | object {entries : List (String × Json)} {texts : List (List Char)}
      (each : List.Forall₂ IsMember entries texts) :
      IsText (.object entries) ('\x7b' :: ([','].intercalate texts ++ ['\x7d']))

inductive IsMember : String × Json → List Char → Prop
  | mk {key : String} {value : Json} {keyText valueText : List Char}
      (quoted : IsQuoted key.toList keyText) (text : IsText value valueText) :
      IsMember (key, value) (keyText ++ ':' :: valueText)

end

def IsVisible (cs : List Char) : Prop :=
  ∀ c ∈ cs, 0x20 ≤ c.toNat

section Visible

variable {cs more : List Char}

private theorem isVisible_append : IsVisible (cs ++ more) ↔ IsVisible cs ∧ IsVisible more :=
  List.forall_mem_append

private theorem isVisible_cons {c : Char} : IsVisible (c :: cs) ↔ 0x20 ≤ c.toNat ∧ IsVisible cs :=
  List.forall_mem_cons

private theorem isVisible_of_digits (h : ∀ c ∈ cs, c.isDigit = true) : IsVisible cs := by
  intro c hc
  have hdigit := h c hc
  rw [Char.isDigit_iff_toNat] at hdigit
  exact Nat.le_trans (by decide) hdigit.1

private theorem IsWritten.visible {c : Char} (h : IsWritten c cs) : IsVisible cs := by
  cases h with
  | plain visible quote backslash => simpa [IsVisible] using visible
  | @short mark _ escape =>
    have hmarks : ∀ entry ∈ shortEscapes, 0x20 ≤ entry.1.toNat := by decide
    exact isVisible_cons.2 ⟨by decide, isVisible_cons.2 ⟨hmarks _ escape, nofun⟩⟩
  | code a b d e number =>
    have hdigits : ∀ digit : Fin 16, 0x20 ≤ (Nat.digitChar digit).toNat := by decide
    simp [IsVisible, hdigits]

private theorem IsNumeral.visible (h : IsNumeral cs) : IsVisible cs := by
  obtain ⟨sign, body, hsign, ⟨whole, fraction, exponent, hwhole, hfraction, hexponent, rfl⟩, rfl⟩ := h
  simp only [isVisible_append]
  refine ⟨?_, ⟨isVisible_of_digits hwhole.1.2, ?_⟩, ?_⟩
  · have hsigns : ∀ sign ∈ [[], ['-']], IsVisible sign := by simp [IsVisible]
    exact hsigns sign hsign
  · rcases hfraction with rfl | ⟨digits, hdigits, rfl⟩
    · exact nofun
    · exact isVisible_cons.2 ⟨by decide, isVisible_of_digits hdigits.2⟩
  · rcases hexponent with rfl | ⟨mark, sign, digits, hmark, hsign, hdigits, rfl⟩
    · exact nofun
    · have hmarks : ∀ mark ∈ ['e', 'E'], 0x20 ≤ mark.toNat := by simp
      have hsigns : ∀ sign ∈ [[], ['+'], ['-']], IsVisible sign := by simp [IsVisible]
      exact isVisible_cons.2 ⟨hmarks mark hmark,
        isVisible_append.2 ⟨hsigns sign hsign, isVisible_of_digits hdigits.2⟩⟩

private theorem IsQuoted.visible {s : List Char} (h : IsQuoted s cs) : IsVisible cs := by
  obtain ⟨pieces, hpieces, rfl⟩ := h
  refine isVisible_cons.2 ⟨by decide, isVisible_append.2 ⟨?_, isVisible_cons.2 ⟨by decide, nofun⟩⟩⟩
  induction hpieces with
  | nil => exact nofun
  | cons written _ ih => exact isVisible_append.2 ⟨written.visible, ih⟩

theorem intercalate_cons (cs : List Char) (texts : List (List Char)) :
    [','].intercalate (cs :: texts) = cs ++ texts.flatMap (',' :: ·) := by
  induction texts generalizing cs with
  | nil => simp
  | cons text rest ih => rw [List.intercalate_cons_cons, ih, List.flatMap_cons]; simp

private theorem isVisible_intercalate {texts : List (List Char)}
    (h : ∀ text ∈ texts, IsVisible text) :
    IsVisible ([','].intercalate texts) := by
  cases texts with
  | nil => exact nofun
  | cons text rest =>
    obtain ⟨htext, hrest⟩ := List.forall_mem_cons.1 h
    rw [intercalate_cons]
    refine isVisible_append.2 ⟨htext, fun c hc => ?_⟩
    obtain ⟨other, hother, hc⟩ := List.mem_flatMap.1 hc
    exact isVisible_cons.2 ⟨by decide, hrest other hother⟩ c hc

mutual

theorem IsText.visible : (j : Json) → {cs : List Char} → IsText j cs → IsVisible cs
  | .null, _, .null => by simp [IsVisible]
  | .bool _, _, .true => by simp [IsVisible]
  | .bool _, _, .false => by simp [IsVisible]
  | .number _, _, .number numeral => numeral.visible
  | .string _, _, .string quoted => quoted.visible
  | .array items, _, .array each =>
    isVisible_cons.2 ⟨by decide, isVisible_append.2
      ⟨isVisible_intercalate (IsText.visibleItems items each), by simp [IsVisible]⟩⟩
  | .object entries, _, .object each =>
    isVisible_cons.2 ⟨by decide, isVisible_append.2
      ⟨isVisible_intercalate (IsText.visibleMembers entries each), by simp [IsVisible]⟩⟩

theorem IsText.visibleItems : (items : List Json) → {texts : List (List Char)} →
    List.Forall₂ IsText items texts → ∀ text ∈ texts, IsVisible text
  | [], _, .nil => nofun
  | item :: rest, _, .cons text others =>
    List.forall_mem_cons.2 ⟨IsText.visible item text, IsText.visibleItems rest others⟩

theorem IsText.visibleMembers : (entries : List (String × Json)) → {texts : List (List Char)} →
    List.Forall₂ IsMember entries texts → ∀ text ∈ texts, IsVisible text
  | [], _, .nil => nofun
  | (_, value) :: rest, _, .cons (.mk quoted text) others =>
    List.forall_mem_cons.2 ⟨isVisible_append.2 ⟨quoted.visible,
      isVisible_cons.2 ⟨by decide, IsText.visible value text⟩⟩, IsText.visibleMembers rest others⟩

end

end Visible

section Strings

private theorem escapeChar_isWritten (c : Char) : IsWritten c (escapeChar c) := by
  unfold escapeChar
  split_ifs with hquote hbackslash hline hreturn htab hback hfeed hcontrol
  · subst hquote
    exact .short (by decide)
  · subst hbackslash
    exact .short (by decide)
  · subst hline
    exact .short (by decide)
  · subst hreturn
    exact .short (by decide)
  · subst htab
    exact .short (by decide)
  · subst hback
    exact .short (by decide)
  · subst hfeed
    exact .short (by decide)
  · have hhigh : c.toNat / 16 < 16 := by omega
    have hlow : c.toNat % 16 < 16 := by omega
    have hbyte : (UInt8.ofNat c.toNat).toNat = c.toNat := by
      rw [UInt8.toNat_ofNat']
      omega
    have hcode : IsWritten c _ :=
      .code 0 0 ⟨c.toNat / 16, hhigh⟩ ⟨c.toNat % 16, hlow⟩ (by simp; omega)
    have hnought : Nat.digitChar 0 = '0' := rfl
    simpa [Text.hexByte, hbyte, hnought] using hcode
  · exact .plain (by omega) hquote hbackslash

private theorem quote_isQuoted (s : List Char) : IsQuoted s (quote s) := by
  refine ⟨s.map escapeChar, ?_, by rw [quote, List.flatMap_def]⟩
  exact List.forall₂_map_right_iff.2 (List.forall₂_same.2 fun c _ => escapeChar_isWritten c)

end Strings

section Values

def printMember (entry : String × Json) : List Char :=
  quote entry.1.toList ++ ':' :: print entry.2

private theorem printItems_eq (items : List Json) :
    printItems items = (items.map print).flatMap (',' :: ·) ++ [']'] := by
  induction items with
  | nil => simp [printItems]
  | cons item rest ih => simp [printItems, ih]

private theorem printMembers_eq (entries : List (String × Json)) :
    printMembers entries = (entries.map printMember).flatMap (',' :: ·) ++ ['\x7d'] := by
  induction entries with
  | nil => simp [printMembers]
  | cons entry rest ih => simp [printMembers, printMember, ih]

theorem print_array (items : List Json) :
    print (.array items) = '[' :: ([','].intercalate (items.map print) ++ [']']) := by
  cases items with
  | nil => simp [print]
  | cons item rest => simp [print, intercalate_cons, printItems_eq]

theorem print_object (entries : List (String × Json)) :
    print (.object entries) = '\x7b' :: ([','].intercalate (entries.map printMember) ++ ['\x7d']) := by
  cases entries with
  | nil => simp [print]
  | cons entry rest => simp [print, printMember, intercalate_cons, printMembers_eq]

mutual

theorem print_isText : (j : Json) → IsText j (print j)
  | .null => .null
  | .bool true => .true
  | .bool false => .false
  | .number n => .number (isNumeral_text n)
  | .string s => .string (quote_isQuoted s.toList)
  | .array items => print_array items ▸ .array (print_items items)
  | .object entries => print_object entries ▸ .object (print_members entries)

theorem print_items : (items : List Json) → List.Forall₂ IsText items (items.map print)
  | [] => .nil
  | item :: rest => .cons (print_isText item) (print_items rest)

theorem print_members : (entries : List (String × Json)) →
    List.Forall₂ IsMember entries (entries.map printMember)
  | [] => .nil
  | (key, value) :: rest =>
    .cons (.mk (quote_isQuoted key.toList) (print_isText value)) (print_members rest)

end

end Values

end SchemaMocks.Json
