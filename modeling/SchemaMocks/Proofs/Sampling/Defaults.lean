import SchemaMocks.Mock.Vocabulary
import SchemaMocks.Proofs.Calendar.Written
import SchemaMocks.Proofs.Sampling.Ranges

set_option autoImplicit false
set_option relaxedAutoImplicit false

/-!
JSON values that become mock values, and numbers and points in time that are defaults. Mock values
have integers of 64 bits with a sign. An integer that needs the last bit becomes a binary number,
which is another JSON value and, unless it happens to be a multiple of 2048, another number;
everything else comes back unchanged. A point in time is drawn in one written form, from which it is
drawn as it stands.
-/

namespace SchemaMocks

namespace Json

namespace Number

/-- Integers of 64 bits that leave none for a sign. -/
inductive IsWide : Number → Prop
  | integer {n : Int} {fits : -9223372036854775808 ≤ n ∧ n < 18446744073709551616}
      (wide : 9223372036854775808 ≤ n) : IsWide (.integer n fits)

/-- The exact value in units of the least positive binary number. -/
def units : Number → Int
  | integer n _ => n * Finite64.unitsPerOne
  | decimal x => x.units

end Number

/-- Whether a wide integer stands in a value, on its own or in arrays. What stands in objects does
not count. -/
inductive HoldsWide : Json → Prop
  | number {n : Number} (wide : n.IsWide) : HoldsWide (.number n)
  | array {items : List Json} {item : Json} (mem : item ∈ items) (inner : HoldsWide item) :
      HoldsWide (.array items)

end Json

namespace MockValue

open Json

private theorem toJson_ofJson_of_not_isWide {n : Number} (h : ¬n.IsWide) :
    (ofJson (.number n)).toJson = .number n := by
  cases n with
  | integer k fits =>
    have hsmall : k < 9223372036854775808 := not_le.1 fun hwide => h (.integer hwide)
    have hword : (Int64.ofInt k).toInt = k := Int64.toInt_ofInt_of_le (by omega) (by omega)
    simp [ofJson, Number.toInt64?, hsmall, toJson, Number.ofInt64, hword]
  | decimal x => rfl

private theorem toJson_ofJson_of_isWide {n : Number} (h : n.IsWide) :
    ∃ x : Finite64, (ofJson (.number n)).toJson = .number (.decimal x) ∧
      (x.units = n.units ↔ (2048 * Finite64.unitsPerOne : Int) ∣ n.units) := by
  cases h with
  | @integer k fits hwide =>
    obtain ⟨m, rfl⟩ := Int.eq_ofNat_of_zero_le (by omega : 0 ≤ k)
    have hlow : 9223372036854775808 ≤ m := by omega
    have hhigh : m < 18446744073709551616 := by omega
    obtain ⟨x, hx, hsign, hmagnitude⟩ := Binary64.roundRatio_word hlow hhigh
    have hunits : x.units = (roundQuotient m 2048 * 2048 : Nat) * (Finite64.unitsPerOne : Int) := by
      rw [Finite64.units, hsign, if_neg Bool.false_ne_true, hmagnitude, Nat.cast_mul]
    have hone : (Finite64.unitsPerOne : Int) ≠ 0 :=
      Int.natCast_ne_zero.2 Finite64.unitsPerOne_pos.ne'
    refine ⟨x, ?_, ?_⟩
    · have hword : (Number.integer m fits).toInt64? = none := by
        rw [Number.toInt64?, if_neg (not_lt.2 hwide)]
      have hbinary : Binary64.ofInt m = .finite x := hx
      rw [ofJson, hword, toJson, Number.toBinary, hbinary, ofBinary]
    · rw [hunits, Number.units, mul_left_inj' hone, Int.mul_dvd_mul_iff_right hone, Nat.cast_inj,
        Binary64.roundQuotient_mul_eq_iff (by decide)]
      exact Int.natCast_dvd_natCast.symm

mutual

private theorem toJson_ofJson_iff (j : Json) : (ofJson j).toJson = j ↔ ¬j.HoldsWide := by
  cases j with
  | null => exact iff_of_true rfl nofun
  | bool value => exact iff_of_true rfl nofun
  | number n =>
    constructor
    · rintro hkept ⟨hwide⟩
      obtain ⟨x, hx, -⟩ := toJson_ofJson_of_isWide hwide
      cases hwide
      rw [hx] at hkept
      cases hkept
    · exact fun h => toJson_ofJson_of_not_isWide fun hwide => h (.number hwide)
  | string value => exact iff_of_true rfl nofun
  | array items =>
    rw [ofJson, toJson, array.injEq, itemsToJson_ofItems_iff items]
    constructor
    · rintro h (_ | ⟨hmem, hwide⟩)
      exact h _ hmem hwide
    · exact fun h item hmem hwide => h (.array hmem hwide)
  | object entries => exact iff_of_true rfl nofun

private theorem itemsToJson_ofItems_iff (items : List Json) :
    itemsToJson (ofItems items) = items ↔ ∀ item ∈ items, ¬item.HoldsWide := by
  cases items with
  | nil => exact iff_of_true rfl nofun
  | cons item rest =>
    rw [ofItems, itemsToJson, List.cons.injEq, toJson_ofJson_iff item, itemsToJson_ofItems_iff rest,
      List.forall_mem_cons]

end

private theorem ofItems_eq_map (items : List Json) : ofItems items = items.map ofJson := by
  induction items with
  | nil => rfl
  | cons item rest ih => rw [ofItems, ih, List.map_cons]

end MockValue

namespace Sampler

theorem scalarSource_of_default {field : Field} {d : DefaultMock}
    (hsource : field.explicitSource? = some (.default d)) : field.scalarSource = .default d := by
  simp only [Field.scalarSource, hsource]

/-- Whether a JSON value can be drawn for a field of a model: in a record of the model, at some
depth and under some bound, or in the stub that stands for one. -/
inductive DrawsJson (sampler : Sampler) (model : Model) (field : Field) (j : Json) : Prop
  | member {depth bound : UInt32} {before after : SamplerState} {value : MockValue}
      (hrun : (sampler.member (fun target next below (_ : _ < bound.toNat - depth.toNat) =>
        sampler.record target next below) model field).run before =
          (.ok (some (.value value)), after))
      (hjson : value.toJson = j)
  | stub {before after : ValueState} {value : MockValue} (hid : model.idField? = some field)
      (hrun : (sampler.stub model).run before = (.ok (.stub field.name value), after))
      (hjson : value.toJson = j)

variable (sampler : Sampler) (model : Model) {field : Field} {d : DefaultMock} {v : MockValue}

section Fixed

variable (hsource : field.explicitSource? = some (.default d))
  (hfixed : ∀ profile key, d.value profile key field.scalar? = pure v)

include hsource hfixed

private theorem yields_fixedScalar : Yields (sampler.scalarField model field) (· = v) := by
  have hvalue : Yields ((MockSource.default d).value sampler.profile model field) (· = v) := by
    rw [MockSource.value, hfixed]
    exact yields_pure rfl
  unfold scalarField
  rw [scalarSource_of_default hsource]
  refine yields_any.bind fun _ _ => ?_
  refine (yields_ofValueDraw (yields_chance _)).bind fun null hnull => ?_
  split
  · rename_i hchance
    have hnever := hnull hchance
    rw [MockSource.mayBeNull, Bool.and_false] at hnever
    cases hnever
  · have hsingle : Yields (if field.isUnique || field.isId then
        Sampling.unique model.name field.name
          ((MockSource.default d).value sampler.profile model field)
        else (MockSource.default d).value sampler.profile model field) (· = v) := by
      split
      · exact yields_unique _ _ hvalue
      · exact yields_ofValueDraw hvalue
    cases field.isList <;> exact hsingle

private theorem yields_fixedEnum : Yields (sampler.enumField model field) (· = v) := by
  unfold enumField
  simp only [hsource, MockSource.value, hfixed]
  exact yields_any.bind fun _ _ => yields_pure rfl

private theorem reaches_fixedScalar :
    Reaches (fun s : SamplerState => s.values.IsOnes ∧ s.ledger = UniqueLedger.empty)
      (sampler.scalarField model field) (· = v) := by
  have hvalue : Reaches (fun _ => True) ((MockSource.default d).value sampler.profile model field)
      (· = v) := by
    rw [MockSource.value, hfixed]
    exact reaches_pure rfl
  unfold scalarField
  rw [scalarSource_of_default hsource]
  refine (leadsTo_unhanded (leadsTo_notices_ones _)).bind_reaches ?_
  refine (leadsTo_unhanded (leadsTo_chance_ones _)).bind_reaches ?_
  rw [if_neg Bool.false_ne_true]
  have hsingle : Reaches (fun s : SamplerState => s.values.IsOnes ∧ s.ledger = UniqueLedger.empty)
      (if field.isUnique || field.isId then
        Sampling.unique model.name field.name
          ((MockSource.default d).value sampler.profile model field)
        else (MockSource.default d).value sampler.profile model field) (· = v) := by
    split
    · exact reaches_unique _ _ hvalue.weaken
    · exact (reaches_ofValueDraw hvalue).weaken
  cases field.isList <;> exact hsingle

private theorem reaches_fixedEnum :
    Reaches ValueState.IsOnes (sampler.enumField model field) (· = v) := by
  unfold enumField
  simp only [hsource, MockSource.value, hfixed]
  exact (leadsTo_notices_ones _).bind_reaches (reaches_pure rfl)

private theorem yields_fixedStub (hid : model.idField? = some field) :
    Yields (sampler.stub model) (· = .stub field.name v) := by
  unfold Sampler.stub
  simp only [hid, scalarSource_of_default hsource, MockSource.value, hfixed]
  exact yields_any.bind fun _ _ => yields_pure rfl

/-- A default with one value gives that value: no other JSON value is drawn for the field, and this
one is. -/
theorem drawsJson_fixed_iff (hkind : field.kind = .scalar ∨ field.kind = .enum) (j : Json) :
    sampler.DrawsJson model field j ↔ j = v.toJson := by
  constructor
  · intro hdrawn
    cases hdrawn with
    | @member _ _ before after value hrun hjson =>
      obtain ⟨_, ⟨⟩, rfl⟩ := sampler.yields_valueMember _ model hkind
        (fun _ => sampler.yields_fixedScalar model hsource hfixed)
        (fun _ => sampler.yields_fixedEnum model hsource hfixed) before after _ hrun
      exact hjson.symm
    | @stub before after value hid hrun hjson =>
      cases sampler.yields_fixedStub model hsource hfixed hid before after _ hrun
      exact hjson.symm
  · intro hj
    obtain ⟨_, _, _, _, value, hrun, rfl⟩ := sampler.exists_valueMember model hkind
      (fun _ => sampler.reaches_fixedScalar model hsource hfixed)
      (fun _ => sampler.reaches_fixedEnum model hsource hfixed)
    exact .member hrun hj.symm

end Fixed

private theorem numberValue_eq_ofJson {scalar : Option ScalarType} (n : Json.Number)
    (h : scalar ≠ some .bigInt) :
    DefaultMock.numberValue scalar n = MockValue.ofJson (.number n) := by
  unfold DefaultMock.numberValue
  rw [MockValue.ofJson]
  cases n.toInt64? with
  | none => rfl
  | some value =>
    cases scalar with
    | none => rfl
    | some type =>
      cases type with
      | bigInt => exact absurd rfl h
      | _ => rfl

theorem list_default_kept_iff (hkind : field.kind = .scalar ∨ field.kind = .enum)
    {items : List Json} (hsource : field.explicitSource? = some (.default (.list items))) :
    (∀ j, sampler.DrawsJson model field j ↔ j = .array items) ↔
      ∀ item ∈ items, ¬item.HoldsWide := by
  have hdraws (j : Json) : sampler.DrawsJson model field j ↔
      j = .array (MockValue.itemsToJson (MockValue.ofItems items)) := by
    rw [MockValue.ofItems_eq_map]
    exact sampler.drawsJson_fixed_iff model hsource (fun _ _ => rfl) hkind j
  rw [← MockValue.itemsToJson_ofItems_iff, ← Json.array.injEq]
  constructor
  · exact fun hkept => (hkept _).1 ((hdraws _).2 rfl)
  · intro hkept j
    rw [hdraws, hkept]

/-- JSON values come back from their mock values where they hold no wide integer. A number that is
the default of a field without big integers is drawn for it, and nothing else is, unless it is a
wide integer: then a binary number is drawn in its place, of the same value exactly where 2048
divides it. -/
theorem default_kept_iff (n : Json.Number) :
    (∀ j : Json, (MockValue.ofJson j).toJson = j ↔ ¬j.HoldsWide) ∧
      (field.kind = .scalar ∨ field.kind = .enum →
        field.explicitSource? = some (.default (.number n)) → field.scalar? ≠ some .bigInt →
        ∃ m : Json.Number, (∀ j, sampler.DrawsJson model field j ↔ j = .number m) ∧
          (m = n ↔ ¬n.IsWide) ∧
          (m.units = n.units ↔ (n.IsWide → (2048 * Finite64.unitsPerOne : Int) ∣ n.units))) := by
  refine ⟨MockValue.toJson_ofJson_iff, ?_⟩
  intro hkind hsource hscalar
  have hfixed (profile : MockProfile) (key : String) :
      (DefaultMock.number n).value profile key field.scalar? =
        pure (MockValue.ofJson (.number n)) :=
    congrArg pure (numberValue_eq_ofJson n hscalar)
  have hdraws := sampler.drawsJson_fixed_iff model hsource hfixed hkind
  by_cases hwide : n.IsWide
  · obtain ⟨x, hx, hunits⟩ := MockValue.toJson_ofJson_of_isWide hwide
    rw [hx] at hdraws
    refine ⟨.decimal x, hdraws, iff_of_false ?_ (not_not_intro hwide), ?_⟩
    · rintro rfl
      cases hwide
    · exact hunits.trans ⟨fun h _ => h, fun h => h hwide⟩
  · rw [MockValue.toJson_ofJson_of_not_isWide hwide] at hdraws
    exact ⟨n, hdraws, iff_of_true rfl hwide, iff_of_true rfl fun h => absurd h hwide⟩

/-- An integer that no binary number equals is drawn as it stands in the schema. -/
theorem default_kept_iff_odd :
    let field := { Field.bare "population" .scalar "Int" with
      isRequired := true
      hasDefault := true
      defaultValue := some (.number (.integer 9007199254740993 (by decide))) }
    field.explicitSource? = some (.default (.number (.integer 9007199254740993 (by decide)))) ∧
      ∀ j, (ofConfig .standard ⟨[], [], []⟩ .standard).DrawsJson (Model.bare "City" [field]) field j ↔
        j = .number (.integer 9007199254740993 (by decide)) := by
  intro field
  have hsource : field.explicitSource? =
      some (.default (.number (.integer 9007199254740993 (by decide)))) := by decide +kernel
  have hscalar : field.scalar? ≠ some .bigInt := by decide +kernel
  have hnarrow : ¬(Json.Number.integer 9007199254740993 (by decide)).IsWide := by
    rintro ⟨hwide⟩
    omega
  obtain ⟨m, hdraws, hkept, -⟩ := (default_kept_iff (ofConfig .standard ⟨[], [], []⟩ .standard)
    (Model.bare "City" [field]) _).2 (.inl rfl) hsource hscalar
  obtain rfl := hkept.2 hnarrow
  exact ⟨hsource, hdraws⟩

/-- The greatest integer of 64 bits is the default, and the power of two after it is drawn. -/
theorem wide_default_rounded :
    let n := Json.Number.integer 18446744073709551615 (by decide)
    let x : Finite64 := ⟨false, 4503599627370496, 12, by decide⟩
    let field := { Field.bare "ratio" .scalar "Float" with
      isRequired := true
      hasDefault := true
      defaultValue := some (.number n) }
    field.explicitSource? = some (.default (.number n)) ∧
      (MockValue.ofJson (.number n)).toJson = .number (.decimal x) ∧
      x.units = 18446744073709551616 * Finite64.unitsPerOne ∧
      (((ofConfig .standard ⟨[Model.bare "Bag" [field]], [], []⟩ .standard).sample "Bag" 1).run
        (.ofSeed 0)).1 = .ok [.object [("ratio", .number (.decimal x))]] := by
  decide +kernel

private theorem toJson_textValue (s : String) :
    (DefaultMock.textValue (some .dateTime) s).toJson = .string (Timestamp.rewritten s) := by
  unfold DefaultMock.textValue Timestamp.rewritten
  cases Timestamp.ofText? s <;> rfl

/-- A text that is the default of a field of points in time is drawn as it is rewritten, and nothing
else is. Rewriting it again changes nothing. Where the text states a point in time of a year of four
digits, the rewritten one states the same, up to the millisecond. -/
theorem date_default_settles (s : String) :
    (∀ field : Field, field.kind = .scalar ∨ field.kind = .enum → field.scalar? = some .dateTime →
        field.explicitSource? = some (.default (.string s)) →
        ∀ j, sampler.DrawsJson model field j ↔ j = .string (Timestamp.rewritten s)) ∧
      Timestamp.rewritten (Timestamp.rewritten s) = Timestamp.rewritten s ∧
      ∀ t, Timestamp.ofText? s = some t → 0 ≤ t.year → t.year ≤ 9999 →
        Timestamp.ofText? (Timestamp.rewritten s) = some t.toMillis := by
  refine ⟨?_, Timestamp.rewritten_rewritten s, fun t => Timestamp.ofText?_rewritten⟩
  intro field hkind hscalar hsource j
  have hfixed (profile : MockProfile) (key : String) :
      (DefaultMock.string s).value profile key field.scalar? =
        pure (DefaultMock.textValue (some .dateTime) s) := by
    rw [hscalar]
    rfl
  rw [sampler.drawsJson_fixed_iff model hsource hfixed hkind, toJson_textValue]

/-- A leap second of the twenty-ninth of February, stated by a clock where it is already March. -/
theorem date_default_settles_leap :
    let s := "2024-03-01T00:59:60.123456789+01:30"
    let field := { Field.bare "at" .scalar "DateTime" with
      isRequired := true
      hasDefault := true
      defaultValue := some (.string s) }
    field.explicitSource? = some (.default (.string s)) ∧
      Timestamp.ofText? s = some ⟨1709249399, 1123456789⟩ ∧
      (∀ j, (ofConfig .standard ⟨[], [], []⟩ .standard).DrawsJson (Model.bare "Log" [field]) field j ↔
        j = .string "2024-02-29T23:29:60.123Z") ∧
      Timestamp.rewritten "2024-02-29T23:29:60.123Z" = "2024-02-29T23:29:60.123Z" ∧
      Timestamp.ofText? "2024-02-29T23:29:60.123Z" = some ⟨1709249399, 1123000000⟩ := by
  intro s field
  have hsource : field.explicitSource? = some (.default (.string s)) := by decide +kernel
  have hscalar : field.scalar? = some .dateTime := by decide +kernel
  have hread : Timestamp.ofText? s = some ⟨1709249399, 1123456789⟩ := by decide +kernel
  have hwritten : Timestamp.rewritten s = "2024-02-29T23:29:60.123Z" := by decide +kernel
  obtain ⟨hdraws, hsettled, hkept⟩ := date_default_settles (ofConfig .standard ⟨[], [], []⟩ .standard)
    (Model.bare "Log" [field]) s
  have hdrawn := hdraws field (.inl rfl) hscalar hsource
  have hstated := hkept _ hread (by decide +kernel) (by decide +kernel)
  rw [hwritten] at hdrawn hsettled hstated
  exact ⟨hsource, hread, hdrawn, hsettled, hstated⟩

end Sampler

end SchemaMocks
