import Mathlib.Data.List.Basic
import Mathlib.Tactic.SplitIfs
import SchemaMocks.Json.Reader
import SchemaMocks.TypeScript.Literal

set_option autoImplicit false
set_option relaxedAutoImplicit false

/-!
Text literals and what they stand for. A literal in single quotes stands for code units of sixteen
bits, by the escapes of strict code. A quoted text is read back whatever follows it: no text has a
quote that is free before the end of its literal, and no two texts have the same one.
-/

namespace SchemaMocks.TypeScript

section Units

/-- The code units of a code point, two where it does not fit one. -/
def unitsOfPoint (n : Nat) : List UInt16 :=
  if n < 0x10000 then [UInt16.ofNat n]
  else [UInt16.ofNat (0xD800 + (n - 0x10000) / 0x400), UInt16.ofNat (0xDC00 + (n - 0x10000) % 0x400)]

def codeUnits (cs : List Char) : List UInt16 :=
  cs.flatMap fun c => unitsOfPoint c.toNat

variable {c d : Char} {cs ds : List Char} {us vs : List UInt16}

@[simp] private theorem codeUnits_cons (c : Char) (cs : List Char) :
    codeUnits (c :: cs) = unitsOfPoint c.toNat ++ codeUnits cs :=
  List.flatMap_cons

private theorem ofNat_inj_of_lt {m n : Nat} (hm : m < 0x10000) (hn : n < 0x10000)
    (h : UInt16.ofNat m = UInt16.ofNat n) : m = n := by
  have hnat := congrArg UInt16.toNat h
  rwa [UInt16.toNat_ofNat', UInt16.toNat_ofNat', Nat.mod_eq_of_lt hm, Nat.mod_eq_of_lt hn] at hnat

private theorem eq_of_unitsOfPoint_append (h : unitsOfPoint c.toNat ++ us = unitsOfPoint d.toNat ++ vs) :
    c = d ∧ us = vs := by
  have hc : c.toNat < 0xD800 ∨ 0xDFFF < c.toNat ∧ c.toNat < 0x110000 := c.valid
  have hd : d.toNat < 0xD800 ∨ 0xDFFF < d.toNat ∧ d.toNat < 0x110000 := d.valid
  have hpoint : c.toNat = d.toNat ∧ us = vs := by
    unfold unitsOfPoint at h
    split_ifs at h with hsmall hsmall' hsmall'
    · obtain ⟨hunit, hrest⟩ := List.cons.inj h
      exact ⟨ofNat_inj_of_lt (by omega) (by omega) hunit, hrest⟩
    · have hunit := ofNat_inj_of_lt (by omega) (by omega) (List.cons.inj h).1
      omega
    · have hunit := ofNat_inj_of_lt (by omega) (by omega) (List.cons.inj h).1
      omega
    · obtain ⟨hhigh, hrest⟩ := List.cons.inj h
      obtain ⟨hlow, hrest⟩ := List.cons.inj hrest
      have hhigh := ofNat_inj_of_lt (by omega) (by omega) hhigh
      have hlow := ofNat_inj_of_lt (by omega) (by omega) hlow
      exact ⟨by omega, hrest⟩
  exact ⟨Char.toNat_inj.1 hpoint.1, hpoint.2⟩

private theorem codeUnits_injective : Function.Injective codeUnits := by
  have hsome : ∀ c cs, codeUnits (c :: cs) ≠ [] := by
    intro c cs
    rw [codeUnits_cons, unitsOfPoint]
    split_ifs <;> simp
  intro cs
  induction cs with
  | nil =>
    intro ds h
    cases ds with
    | nil => rfl
    | cons d ds => exact absurd h.symm (hsome d ds)
  | cons c cs ih =>
    intro ds h
    cases ds with
    | nil => exact absurd h (hsome c cs)
    | cons d ds =>
      rw [codeUnits_cons, codeUnits_cons] at h
      obtain ⟨rfl, hrest⟩ := eq_of_unitsOfPoint_append h
      rw [ih hrest]

end Units

section Reading

/-- The escapes for single characters that do not stand for themselves. -/
def controlEscapes : List (Char × UInt16) := [
  ('b', 0x8), ('t', 0x9), ('n', 0xA), ('v', 0xB), ('f', 0xC), ('r', 0xD)]

/-- Characters that end a line. -/
def isLineEnd (c : Char) : Bool :=
  c == '\n' || c == '\r' || c.toNat == 0x2028 || c.toNat == 0x2029

/-- The number of some digits in base sixteen. -/
def hexNumber? (digits : List Char) : Option Nat :=
  digits.foldlM (fun n c => (Json.hexValue? c).map fun digit => 16 * n + digit) 0

/-- A code unit in so many digits. -/
def readUnit? (width : Nat) (cs : List Char) : Option (List UInt16 × List Char) :=
  if cs.length < width then none
  else (hexNumber? (cs.take width)).map fun n => ([UInt16.ofNat n], cs.drop width)

/-- A code point in braces. -/
def readPoint? (cs : List Char) : Option (List UInt16 × List Char) :=
  let digits := cs.takeWhile (· != '\x7d')
  match cs.drop digits.length, hexNumber? digits with
  | '\x7d' :: rest, some n =>
    if digits ≠ [] ∧ n ≤ 0x10FFFF then some (unitsOfPoint n, rest) else none
  | _, _ => none

/-- What stands for the escape behind a backslash, and what follows it. There are no octal escapes. -/
def readEscape? : List Char → Option (List UInt16 × List Char)
  | [] => none
  | 'x' :: rest => readUnit? 2 rest
  | 'u' :: '\x7b' :: rest => readPoint? rest
  | 'u' :: rest => readUnit? 4 rest
  | '0' :: rest => if rest.head?.any Char.isDigit then none else some ([0], rest)
  | '\r' :: '\n' :: rest => some ([], rest)
  | c :: rest =>
    if c.isDigit then none
    else if isLineEnd c then some ([], rest)
    else some (((controlEscapes.lookup c).map fun unit => [unit]).getD (unitsOfPoint c.toNat), rest)

/-- The rest of a literal up to its closing quote, and what follows it. -/
def readBody : Nat → List Char → Option (List UInt16 × List Char)
  | 0, _ => none
  | _ + 1, [] => none
  | fuel + 1, c :: rest =>
    if c = '\x27' then some ([], rest)
    else if c = '\n' ∨ c = '\r' then none
    else do
      let (front, rest) ← if c = '\\' then readEscape? rest else some (unitsOfPoint c.toNat, rest)
      let (back, rest) ← readBody fuel rest
      some (front ++ back, rest)

/-- The code units that a literal in front of a text stands for, and what follows the literal. -/
def readLiteral? : List Char → Option (List UInt16 × List Char)
  | '\x27' :: rest => readBody rest.length rest
  | _ => none

variable {cs rest : List Char}

private theorem readBody_escapeChar (fuel : Nat) (c : Char) (rest : List Char) :
    readBody (fuel + 1) (escapeChar c ++ rest) =
      (readBody fuel rest).map fun (units, after) => (unitsOfPoint c.toNat ++ units, after) := by
  have hread : ∀ front, (do
      let (units, after) ← readBody fuel rest
      some (front ++ units, after)) =
        (readBody fuel rest).map fun (units, after) => (front ++ units, after) := by
    intro front
    cases readBody fuel rest <;> rfl
  rw [← hread]
  unfold escapeChar
  split_ifs with hbackslash hquote hfeed hreturn htab
  · subst hbackslash
    rfl
  · subst hquote
    rfl
  · subst hfeed
    rfl
  · subst hreturn
    rfl
  · subst htab
    rfl
  · simp [readBody, hbackslash, hquote, hfeed, hreturn]

private theorem readBody_flatMap {fuel : Nat} (hfuel : cs.length < fuel) :
    readBody fuel (cs.flatMap escapeChar ++ '\x27' :: rest) = some (codeUnits cs, rest) := by
  induction cs generalizing fuel with
  | nil =>
    obtain ⟨fuel, rfl⟩ := Nat.exists_eq_succ_of_ne_zero (Nat.ne_of_gt hfuel)
    rfl
  | cons c cs ih =>
    obtain ⟨fuel, rfl⟩ := Nat.exists_eq_succ_of_ne_zero (Nat.ne_of_gt (Nat.zero_lt_of_lt hfuel))
    rw [List.flatMap_cons, List.append_assoc, readBody_escapeChar,
      ih (Nat.lt_of_succ_lt_succ hfuel)]
    rfl

theorem length_le_length_flatMap_escapeChar (cs : List Char) :
    cs.length ≤ (cs.flatMap escapeChar).length := by
  have hone : ∀ c, 1 ≤ (escapeChar c).length := by
    intro c
    unfold escapeChar
    split_ifs <;> simp
  induction cs with
  | nil => exact Nat.le_refl 0
  | cons c cs ih =>
    have hc := hone c
    rw [List.flatMap_cons, List.length_append, List.length_cons]
    omega

theorem toList_quote (s : String) : (quote s).toList = quoteChars s.toList :=
  String.toList_ofList

/-- A quoted text is read back, whatever follows it. -/
theorem readLiteral?_quote (s : String) (rest : List Char) :
    readLiteral? ((quote s).toList ++ rest) = some (codeUnits s.toList, rest) := by
  have hlength := length_le_length_flatMap_escapeChar s.toList
  rw [toList_quote, quoteChars, List.cons_append, List.append_assoc, List.singleton_append,
    readLiteral?]
  refine readBody_flatMap ?_
  rw [List.length_append, List.length_cons]
  omega

/-- Escapes that quoting does not write are read too: code units and code points in base sixteen, and
a line that goes on. -/
example :
    readLiteral? "\x27\\x41\\u00e9\\u\x7b1F600\x7d\\\n\\0\x27;".toList =
      some ([0x41, 0xE9, 0xD83D, 0xDE00, 0], [';']) := by
  decide

private theorem quote_injective : Function.Injective quote := by
  intro s t h
  have hs := readLiteral?_quote s []
  rw [h, readLiteral?_quote t [], Option.some.injEq, Prod.mk.injEq] at hs
  exact String.toList_injective (codeUnits_injective hs.1.symm)

end Reading

section Escapes

variable {c : Char} {cs front back : List Char}

def isEscaped (cs : List Char) : Bool :=
  cs.foldl (fun escaped c => !escaped && c == '\\') false

/-- A body in quotes: it stays in its line, and of its quotes and the one that closes it only that
one is free. -/
structure IsQuoteBody (body : List Char) : Prop where
  no_line_break : ∀ c ∈ body, c ≠ '\n' ∧ c ≠ '\r'
  isEscaped_iff : ∀ front back, body ++ ['\x27'] = front ++ '\x27' :: back →
    (isEscaped front = true ↔ back ≠ [])

theorem escapeChar_cases (c : Char) :
    (∃ d, escapeChar c = ['\\', d] ∧ d ≠ '\n' ∧ d ≠ '\r') ∨
      escapeChar c = [c] ∧ c ≠ '\\' ∧ c ≠ '\x27' ∧ c ≠ '\n' ∧ c ≠ '\r' := by
  unfold escapeChar
  split_ifs with hbackslash hquote hfeed hreturn htab
  · exact .inl ⟨_, rfl, by decide⟩
  · exact .inl ⟨_, rfl, by decide⟩
  · exact .inl ⟨_, rfl, by decide⟩
  · exact .inl ⟨_, rfl, by decide⟩
  · exact .inl ⟨_, rfl, by decide⟩
  · exact .inr ⟨rfl, hbackslash, hquote, hfeed, hreturn⟩

private theorem isEscaped_cons_of_ne (h : c ≠ '\\') : isEscaped (c :: cs) = isEscaped cs := by
  rw [isEscaped, List.foldl_cons, beq_false_of_ne h]
  rfl

private theorem isEscaped_pair (d : Char) (cs : List Char) :
    isEscaped ('\\' :: d :: cs) = isEscaped cs :=
  rfl

private theorem isQuoteBody_nil : IsQuoteBody [] := by
  refine ⟨by simp, fun front back h => ?_⟩
  cases front with
  | nil =>
    obtain rfl : [] = back := (List.cons.inj h).2
    decide
  | cons c front =>
    have hnone := (List.cons.inj h).2
    simp at hnone

private theorem IsQuoteBody.escapeChar_append (c : Char) (h : IsQuoteBody cs) :
    IsQuoteBody (escapeChar c ++ cs) := by
  rcases escapeChar_cases c with ⟨d, hc, hfeed, hreturn⟩ | ⟨hc, hbackslash, hquote, hfeed, hreturn⟩
  · rw [hc]
    constructor
    · exact List.forall_mem_cons.2 ⟨by decide, List.forall_mem_cons.2 ⟨⟨hfeed, hreturn⟩, h.1⟩⟩
    · rintro (_ | ⟨x, _ | ⟨y, front⟩⟩) back hsplit
      · cases hsplit
      · obtain ⟨hx, htail⟩ := List.cons.inj hsplit
        obtain ⟨-, hback⟩ := List.cons.inj htail
        refine iff_of_true (hx ▸ rfl) (hback ▸ ?_)
        exact List.append_ne_nil_of_right_ne_nil cs (List.cons_ne_nil _ _)
      · obtain ⟨hx, htail⟩ := List.cons.inj hsplit
        rw [← hx, isEscaped_pair]
        exact h.2 front back (List.cons.inj htail).2
  · rw [hc]
    constructor
    · exact List.forall_mem_cons.2 ⟨⟨hfeed, hreturn⟩, h.1⟩
    · rintro (_ | ⟨x, front⟩) back hsplit
      · exact absurd (List.cons.inj hsplit).1 hquote
      · obtain ⟨hx, htail⟩ := List.cons.inj hsplit
        rw [← hx, isEscaped_cons_of_ne hbackslash]
        exact h.2 front back htail

theorem isQuoteBody_flatMap (cs : List Char) : IsQuoteBody (cs.flatMap escapeChar) := by
  induction cs with
  | nil => exact isQuoteBody_nil
  | cons c cs ih => exact ih.escapeChar_append c

end Escapes

/-- A quoted text is one literal and stands for the text, whatever follows it, and no other text has
the same literal. -/
theorem quote_isLiteral : Function.Injective quote ∧ ∀ s : String,
    (∃ body, (quote s).toList = '\x27' :: (body ++ ['\x27']) ∧ IsQuoteBody body) ∧
    ∀ rest, readLiteral? ((quote s).toList ++ rest) = some (codeUnits s.toList, rest) :=
  ⟨quote_injective, fun s =>
    ⟨⟨s.toList.flatMap escapeChar, toList_quote s, isQuoteBody_flatMap s.toList⟩,
      readLiteral?_quote s⟩⟩

end SchemaMocks.TypeScript
