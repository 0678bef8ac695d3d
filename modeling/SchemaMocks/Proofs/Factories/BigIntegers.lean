import SchemaMocks.Mock.Vocabulary
import SchemaMocks.Proofs.Binary64.Integers
import SchemaMocks.Proofs.Config.Stated
import SchemaMocks.Proofs.Sampling.Defaults
import SchemaMocks.TypeScript.MockExpr

set_option autoImplicit false
set_option relaxedAutoImplicit false

/-!
Big integers in generated code. A default is written as an integer literal inside a call of `BigInt`.
When the code runs, the literal stands for the binary number nearest to it, and the call takes the
exact value of that. So the default comes out as it stands in the schema where the integer needs no
bit after its first 53, and as another integer where it does; records have it in either case.
-/

namespace SchemaMocks

namespace TypeScript

open Binary64 (nearestWhole bitsBeyond)

section Evaluation

/-- The number that an integer literal without a suffix stands for: the one nearest to it. A literal
of more than one digit does not begin with a nought. -/
def integerLiteral? (cs : List Char) : Option Binary64 :=
  if cs.head? = some '0' ∧ cs ≠ ['0'] then none
  else (Text.digits? cs).map fun n => Binary64.roundRatio false n 1

/-- The number of an integer literal, or of one behind a minus sign. -/
def signedLiteral? : List Char → Option Binary64
  | '-' :: rest => (integerLiteral? rest).map Binary64.neg
  | cs => integerLiteral? cs

/-- The exact value of a number as an integer; a number with a fraction has none. -/
def exactInteger? : Binary64 → Option Int
  | .finite x => if x.isWhole then some x.trunc else none
  | _ => none

/-- The integer that a call of `BigInt` on an integer literal gives. -/
def bigIntCall? (code : String) : Option Int := do
  let argument ← Text.after? "BigInt(".toList code.toList
  if argument.getLast? = some ')' then (signedLiteral? argument.dropLast).bind exactInteger?
  else none

def nearestInteger (n : Int) : Int :=
  n.sign * nearestWhole n.natAbs

private theorem nearestInteger_eq_iff (n : Int) :
    nearestInteger n = n ↔ twoTo (bitsBeyond n.natAbs) ∣ n.natAbs := by
  rw [← Binary64.nearestWhole_eq_iff]
  have hparts : n.sign * (n.natAbs : Int) = n := Int.sign_mul_natAbs n
  unfold nearestInteger
  constructor
  · intro hkept
    by_cases hn : n = 0
    · subst hn
      decide
    · have hsign : n.sign ≠ 0 := by
        rwa [Ne, Int.sign_eq_zero_iff_zero]
      have hsame : n.sign * (nearestWhole n.natAbs : Int) = n.sign * (n.natAbs : Int) := by
        rw [hkept, hparts]
      exact_mod_cast Int.eq_of_mul_eq_mul_left hsign hsame
  · intro hkept
    rw [hkept, hparts]

private theorem exactInteger?_of_units {x : Finite64} {n : Int}
    (h : x.units = n * Finite64.unitsPerOne) :
    exactInteger? (.finite x) = some n := by
  have hone : (Finite64.unitsPerOne : Int) ≠ 0 := by exact_mod_cast Finite64.unitsPerOne_pos.ne'
  have hmagnitude : x.magnitude = n.natAbs * Finite64.unitsPerOne := by
    have habs : x.units.natAbs = x.magnitude := by
      unfold Finite64.units
      split <;> omega
    rw [← habs, h, Int.natAbs_mul, Int.natAbs_natCast]
  have hwhole : x.isWhole = true := by
    rw [Finite64.isWhole, hmagnitude, Nat.mul_mod_left]
    rfl
  have htrunc : x.trunc = n := by
    rw [Finite64.trunc, h, Int.mul_tdiv_cancel n hone]
  rw [exactInteger?, if_pos hwhole, htrunc]

private theorem integerLiteral?_toDigits {n : Nat} (h : n ≤ 18446744073709551616) :
    ∃ x, integerLiteral? (Nat.toDigits 10 n) = some (.finite x) ∧ x.negative = false ∧
      x.magnitude = nearestWhole n * Finite64.unitsPerOne := by
  obtain ⟨x, hx, hnegative, hmagnitude⟩ := Binary64.roundRatio_integer false h
  obtain ⟨hdigits, hnought⟩ := Json.isWhole_toDigits n
  have hread : Text.digits? (Nat.toDigits 10 n) = some n :=
    Text.digits?_eq_some_iff.2 ⟨hdigits.1, hdigits.2, Json.digitsValue_toDigits n⟩
  have hplain : ¬((Nat.toDigits 10 n).head? = some '0' ∧ Nat.toDigits 10 n ≠ ['0']) := by
    rintro ⟨hhead, hmore⟩
    exact hmore (hnought hhead)
  refine ⟨x, ?_, hnegative, hmagnitude⟩
  rw [integerLiteral?, if_neg hplain, hread, Option.map_some, hx]

private theorem signedLiteral?_int {n : Int} (h : n.natAbs ≤ 18446744073709551616) :
    ∃ x, signedLiteral? (toString n).toList = some (.finite x) ∧
      x.units = nearestInteger n * Finite64.unitsPerOne := by
  cases n with
  | ofNat m =>
    obtain ⟨x, hx, hnegative, hmagnitude⟩ := integerLiteral?_toDigits (n := m) h
    have htext : (toString (Int.ofNat m)).toList = Nat.toDigits 10 m := Json.toList_toString m
    have hplain : signedLiteral? (Nat.toDigits 10 m) = integerLiteral? (Nat.toDigits 10 m) := by
      unfold signedLiteral?
      split
      · rename_i rest hminus
        have hdigit := (Json.isDigits_toDigits m).2 '-' (by rw [hminus]; exact List.mem_cons_self)
        cases hdigit
      · rfl
    have hvalue : nearestInteger (Int.ofNat m) = nearestWhole m := by
      cases m with
      | zero => decide
      | succ m =>
        show (1 : Int) * _ = _
        rw [Int.one_mul, Int.natAbs_ofNat']
    refine ⟨x, by rw [htext, hplain, hx], ?_⟩
    rw [Finite64.units, hnegative, hmagnitude, hvalue, if_neg Bool.false_ne_true, Int.natCast_mul]
  | negSucc m =>
    obtain ⟨x, hx, hnegative, hmagnitude⟩ := integerLiteral?_toDigits (n := m + 1) h
    have htext : (toString (Int.negSucc m)).toList = '-' :: Nat.toDigits 10 (m + 1) := by
      show ("-" ++ toString (m + 1)).toList = _
      rw [String.toList_append, Json.toList_toString]
      rfl
    have hvalue : nearestInteger (Int.negSucc m) = -(nearestWhole (m + 1) : Int) :=
      Int.neg_one_mul _
    refine ⟨x.neg, by rw [htext, signedLiteral?, hx]; rfl, ?_⟩
    show (if !x.negative then -(x.magnitude : Int) else x.magnitude) = _
    rw [hnegative, hmagnitude, hvalue, Bool.not_false, if_pos rfl, Int.natCast_mul, Int.neg_mul]

private theorem bigIntCall?_int {n : Int} (h : n.natAbs ≤ 18446744073709551616) :
    bigIntCall? ("BigInt(" ++ toString n ++ ")") = some (nearestInteger n) := by
  obtain ⟨x, hx, hunits⟩ := signedLiteral?_int h
  have hcode : ("BigInt(" ++ toString n ++ ")").toList =
      "BigInt(".toList ++ ((toString n).toList ++ [')']) := by
    rw [String.toList_append, String.toList_append, List.append_assoc]
    rfl
  unfold bigIntCall?
  rw [hcode, Text.after?_append]
  show (if _ then _ else _) = _
  rw [if_pos List.getLast?_concat, List.dropLast_concat, hx, Option.bind_some,
    exactInteger?_of_units hunits]

end Evaluation

namespace MockExpr

variable {field : Field} {d : DefaultMock}

private theorem ofScalarField_of_default (config : GeneratorConfig)
    (hsource : field.explicitSource? = some (.default d)) :
    ofScalarField config field = ofDefault field.scalar? d := by
  unfold ofScalarField
  rw [Sampler.scalarSource_of_default hsource]
  show scalarValue config field (.default d) = _
  unfold scalarValue
  split <;> rfl

end MockExpr

/-- The default of a field of big integers is written as a call that gives a single integer. That is
the default, and so what is drawn for the field in records, exactly where the bits of the default
after its first 53 are zero. -/
theorem bigInt_default_exact_iff (config : GeneratorConfig) (sampler : Sampler) (model : Model)
    {field : Field} {n : Int} {fits : -9223372036854775808 ≤ n ∧ n < 18446744073709551616}
    (hword : n < 9223372036854775808) (hkind : field.kind = .scalar)
    (htype : field.scalar? = some .bigInt)
    (hsource : field.explicitSource? = some (.default (.number (.integer n fits)))) :
    ∃ m, bigIntCall? (MockExpr.ofScalarField config field).render = some m ∧
      (∀ j, sampler.DrawsJson model field j ↔ j = .string (toString n)) ∧
      (m = n ↔ twoTo (bitsBeyond n.natAbs) ∣ n.natAbs) := by
  have hcode : (MockExpr.ofScalarField config field).render = "BigInt(" ++ toString n ++ ")" := by
    rw [MockExpr.ofScalarField_of_default config hsource, htype]
    rfl
  have hint : (Int64.ofInt n).toInt = n := Int64.toInt_ofInt_of_le fits.1 (by omega)
  have hfixed (profile : MockProfile) (key : String) :
      (DefaultMock.number (.integer n fits)).value profile key field.scalar? =
        pure (.bigInt (Int64.ofInt n)) := by
    have hnumber : DefaultMock.numberValue (some .bigInt) (.integer n fits) =
        .bigInt (Int64.ofInt n) := by
      unfold DefaultMock.numberValue
      simp only [Json.Number.toInt64?, if_pos hword]
    rw [htype, DefaultMock.value, hnumber]
  have hdraws := sampler.drawsJson_fixed_iff model hsource hfixed (.inl hkind)
  refine ⟨nearestInteger n, ?_, ?_, nearestInteger_eq_iff n⟩
  · rw [hcode]
    apply bigIntCall?_int
    omega
  · intro j
    rw [hdraws j, MockValue.toJson, hint]

/-- A required big integer with a default. -/
def populationField (n : Int) (fits : -9223372036854775808 ≤ n ∧ n < 18446744073709551616) :
    Field :=
  { Field.bare "population" .scalar "BigInt" with
    isRequired := true
    hasDefault := true
    defaultValue := some (.number (.integer n fits)) }

/-- The least integer of 64 bits uses only its first bit, and stays. -/
theorem bigInt_default_exact_least :
    let field := populationField (-9223372036854775808) (by decide)
    bigIntCall? (MockExpr.ofScalarField .standard field).render = some (-9223372036854775808) ∧
      ∀ j, (Sampler.ofConfig .standard ⟨[], [], []⟩ .standard).DrawsJson (Model.bare "City" [field]) field j ↔
        j = .string "-9223372036854775808" := by
  intro field
  have hsource : field.explicitSource? =
      some (.default (.number (.integer (-9223372036854775808) (by decide)))) := by decide +kernel
  have htype : field.scalar? = some .bigInt := by decide +kernel
  have hzero : twoTo (bitsBeyond (-9223372036854775808 : Int).natAbs) ∣
      (-9223372036854775808 : Int).natAbs := by
    decide +kernel
  obtain ⟨m, hm, hdraws, hkept⟩ := bigInt_default_exact_iff .standard
    (Sampler.ofConfig .standard ⟨[], [], []⟩ .standard) (Model.bare "City" [field]) (by decide) rfl htype
    hsource
  obtain rfl := hkept.2 hzero
  exact ⟨hm, hdraws⟩

/-- The first integer that needs a bit after its first 53 comes out as the one below it. -/
theorem bigInt_default_rounded :
    let field := populationField 9007199254740993 (by decide)
    field.scalar? = some .bigInt ∧
      field.explicitSource? =
        some (.default (.number (.integer 9007199254740993 (by decide)))) ∧
      (MockExpr.ofScalarField .standard field).render = "BigInt(9007199254740993)" ∧
      bigIntCall? "BigInt(9007199254740993)" = some 9007199254740992 ∧
      (((Sampler.ofConfig .standard ⟨[Model.bare "City" [field]], [], []⟩ .standard).sample "City" 1).run
        (.ofSeed 0)).1 = .ok [.object [("population", .string "9007199254740993")]] := by
  decide +kernel

end TypeScript

end SchemaMocks
