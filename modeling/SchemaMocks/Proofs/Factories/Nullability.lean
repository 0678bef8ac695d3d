import SchemaMocks.Mock.Vocabulary
import SchemaMocks.Proofs.Datamodel.Validation
import SchemaMocks.Proofs.Factories.Agreement
import SchemaMocks.Proofs.Sampling.Null

set_option autoImplicit false
set_option relaxedAutoImplicit false

/-!
Null in mocks and in schemas. The factory of a model can hold null for a field where the sampler can
draw it: where the field is optional, or something that it refers to is missing. The schema of a
field passes null where the field is optional; of what may be missing it makes up for less, so that
a required field can have a mock that its own schema refuses.
-/

namespace SchemaMocks.TypeScript

namespace SchemaExpr

/-- Whether null passes a schema. -/
def acceptsNull : SchemaExpr → Bool
  | unknown | nullable _ => true
  | optional inner => inner.acceptsNull
  | _ => false

private theorem acceptsNull_element (config : GeneratorConfig) (doc : Document) (field : Field) :
    (element config doc field).acceptsNull = true ↔ element config doc field = unknown := by
  unfold element
  cases field.kind with
  | scalar =>
    cases field.scalar? with
    | none => simp [acceptsNull]
    | some scalar => cases scalar <;> simp [ofScalar, acceptsNull]
  | enum => dsimp only; split <;> simp [acceptsNull]
  | relation => cases doc.target? field <;> simp [acceptsNull]
  | unsupported => simp [acceptsNull]

private theorem acceptsNull_ofField_iff (config : GeneratorConfig) (doc : Document)
    (field : Field) :
    (ofField config doc field).acceptsNull = true ↔
      field.isRequired = false ∨ field.isList = false ∧ element config doc field = unknown := by
  have hoptional : (ofField config doc field).acceptsNull =
      (if field.isRequired then if field.isList then array (element config doc field)
        else element config doc field
      else nullable (element config doc field)).acceptsNull := by
    unfold ofField
    cases field.hasDefault <;> cases field.isRequired <;> cases field.isList <;> rfl
  rw [hoptional]
  cases field.isRequired <;> cases field.isList <;> simp [acceptsNull, acceptsNull_element]

end SchemaExpr

section MayBeNull

/-- Whether an expression gives null, be it by the toss of a coin. -/
def MockExpr.mayBeNull : MockExpr → Bool
  | null | maybe _ => true
  | _ => false

/-- Whether an expression gives null at some depth. -/
def RelationExpr.mayBeNull : RelationExpr → Bool
  | terminal value => value == .null
  | expand _ _ otherwise => otherwise == .null

def MemberExpr.mayBeNull : MemberExpr → Bool
  | sourced _ value | declared value => value.mayBeNull
  | relation value => value.mayBeNull

variable {config : GeneratorConfig} {doc : Document} {field : Field}

private theorem mayBeNull_ofType (config : GeneratorConfig) (scalar : ScalarType) :
    (MockExpr.ofType config scalar).mayBeNull = false := by
  cases scalar <;> rfl

private theorem mayBeNull_ofSemantic (config : GeneratorConfig) (scalar : ScalarType)
    (name : String)
    (semantic : SemanticType) :
    (MockExpr.ofSemantic config scalar name semantic).mayBeNull = false := by
  cases semantic with
  | unknown => exact mayBeNull_ofType config scalar
  | address | image | date | price | person =>
    unfold MockExpr.ofSemantic
    dsimp only
    split_ifs <;> rfl
  | _ => rfl

private theorem mayBeNull_ofScalarField_iff (config : GeneratorConfig) (doc : Document)
    (hkind : field.kind = .scalar) (hsource : field.explicitSource? = none) :
    (MockExpr.ofScalarField config field).mayBeNull = true ↔ field.CanBeNull doc := by
  rw [Field.canBeNull_scalar_iff hkind]
  unfold MockExpr.ofScalarField Field.scalarSource
  simp only [hsource]
  cases field.scalar? with
  | none =>
    refine iff_of_true ?_ (.inl rfl)
    cases hlist : field.isList <;> simp [MockExpr.underCoin, MockExpr.isOptionalSource,
      MockExpr.scalarValue, MockExpr.ofSource, MockExpr.mayBeNull, hlist]
  | some scalar =>
    dsimp only
    cases hrequired : field.isRequired with
    | false =>
      refine iff_of_true ?_ (.inr rfl)
      split <;> simp [MockExpr.underCoin, MockExpr.isOptionalSource, hrequired, MockExpr.mayBeNull]
    | true =>
      refine iff_of_false ?_ (by simp)
      rw [Bool.not_eq_true]
      unfold MockExpr.underCoin MockExpr.scalarValue
      split <;> cases field.isList <;> simp only [MockExpr.isOptionalSource, hrequired]
      · exact mayBeNull_ofSemantic config scalar field.name _
      · rfl
      · exact mayBeNull_ofType config scalar
      · rfl

private theorem mayBeNull_ofDeclared_iff (doc : Document) (hkind : field.kind = .enum) :
    (MockExpr.ofDeclared field (doc.enum? field.typeName)).mayBeNull = true ↔
      field.CanBeNull doc := by
  rw [Field.canBeNull_enum_iff hkind]
  unfold MockExpr.ofDeclared
  cases doc.enum? field.typeName with
  | none => exact iff_of_true rfl (.inl nofun)
  | some e =>
    cases hnames : e.valueNames with
    | nil =>
      refine iff_of_true (by simp [hnames, MockExpr.mayBeNull]) (.inl ?_)
      rintro _ ⟨⟩
      exact hnames
    | cons name rest =>
      cases field.isRequired <;> cases field.isList <;> simp [hnames, MockExpr.mayBeNull]

private theorem terminalOf_eq_null_iff (config : GeneratorConfig) (field : Field) (target : Model) :
    RelationExpr.terminalOf config field target = .null ↔
      field.isList = false ∧ (target.idField? = none ∨ field.isRequired = false) := by
  unfold RelationExpr.terminalOf RelationExpr.stubOf
  cases field.isList <;> cases field.isRequired <;> cases target.idField? <;> simp

private theorem mayBeNull_ofRelation_iff (config : GeneratorConfig) (doc : Document)
    (hkind : field.kind = .relation) :
    (RelationExpr.ofField config doc field).mayBeNull = true ↔ field.CanBeNull doc := by
  rw [Field.canBeNull_relation_iff hkind]
  unfold RelationExpr.ofField
  cases doc.target? field with
  | none => exact iff_of_true rfl (.inl rfl)
  | some target =>
    dsimp only
    split <;> simp [RelationExpr.mayBeNull, terminalOf_eq_null_iff]

/-- Without a source that the document states, the factory can hold null for a field exactly where
the field can be null. -/
private theorem mayBeNull_ofField_iff {member : MemberExpr} (hsource : field.explicitSource? = none)
    (hmember : MemberExpr.ofField? config doc field = some member) :
    member.mayBeNull = true ↔ field.CanBeNull doc := by
  unfold MemberExpr.ofField? at hmember
  split at hmember
  · rename_i hkind
    cases hmember
    exact mayBeNull_ofScalarField_iff config doc hkind hsource
  · rename_i hkind
    simp only [hsource, Option.some.injEq] at hmember
    rw [← hmember, MemberExpr.mayBeNull, MockExpr.ofEnumField, hsource]
    exact mayBeNull_ofDeclared_iff doc hkind
  · rename_i hkind
    cases hmember
    exact mayBeNull_ofRelation_iff config doc hkind
  · cases hmember

private theorem drawsNull_iff_mayBeNull (sampler : Sampler) (model : Model) {member : MemberExpr}
    (hsource : field.explicitSource? = none)
    (hmember : MemberExpr.ofField? sampler.config sampler.document field = some member) :
    sampler.DrawsNull model field ↔ member.mayBeNull = true := by
  have hmocked : Sampler.IsMocked field :=
    (ofField?_isSome_iff sampler.config sampler.document field).1 (by rw [hmember]; rfl)
  rw [sampler.drawsNull_iff model hmocked hsource, mayBeNull_ofField_iff hsource hmember]

end MayBeNull

/-- Where something that a required field refers to is missing and its schema does not make up for
it: the schema of a list is one of what it would hold, also where the mock is null for the whole;
and the schemas of a known enum and of a known model do not depend on what they hold. -/
inductive NullIsRefused (doc : Document) (field : Field) : Prop
  | unknownTypes (hkind : field.kind = .scalar) (hlist : field.isList = true)
      (htype : field.scalar? = none)
  | unknownEnums (hkind : field.kind = .enum) (hlist : field.isList = true)
      (henum : doc.enum? field.typeName = none)
  | noValues {e : EnumType} (hkind : field.kind = .enum)
      (henum : doc.enum? field.typeName = some e) (hvalues : e.valueNames = [])
  | unknownModels (hkind : field.kind = .relation) (hlist : field.isList = true)
      (htarget : doc.target? field = none)
  | noId {target : Model} (hkind : field.kind = .relation) (hlist : field.isList = false)
      (htarget : doc.target? field = some target) (hid : target.idField? = none)

variable {config : GeneratorConfig} {doc : Document} {field : Field}

/-- It is refused where the field can be null and is neither optional nor a single value that is
not known. -/
private theorem nullIsRefused_iff (config : GeneratorConfig) (hrequired : field.isRequired = true) :
    NullIsRefused doc field ↔ field.CanBeNull doc ∧
      ¬(field.isList = false ∧ SchemaExpr.element config doc field = .unknown) := by
  constructor
  · rintro (⟨hkind, hlist, htype⟩ | ⟨hkind, hlist, henum⟩ | ⟨hkind, henum, hvalues⟩ |
      ⟨hkind, hlist, htarget⟩ | ⟨hkind, hlist, htarget, hid⟩)
    · exact ⟨.unknownType hkind htype, by simp [hlist]⟩
    · exact ⟨.noValues hkind (by simp [henum]), by simp [hlist]⟩
    · refine ⟨.noValues hkind fun _ he => ?_, by simp [SchemaExpr.element, hkind, henum]⟩
      rwa [← Option.some.inj (henum.symm.trans he)]
    · exact ⟨.unknownModel hkind htarget, by simp [hlist]⟩
    · exact ⟨.noId hkind hlist htarget hid, by simp [SchemaExpr.element, hkind, htarget]⟩
  · rintro ⟨hnull, hknown⟩
    have hlist (helement : SchemaExpr.element config doc field = .unknown) : field.isList = true :=
      by simpa [helement] using hknown
    cases hnull with
    | unknownType hkind htype =>
      exact .unknownTypes hkind (hlist (by simp [SchemaExpr.element, hkind, htype])) htype
    | noValues hkind hvalues =>
      cases henum : doc.enum? field.typeName with
      | none => exact .unknownEnums hkind (hlist (by simp [SchemaExpr.element, hkind, henum])) henum
      | some e => exact .noValues hkind henum (hvalues e henum)
    | unknownModel hkind htarget =>
      exact .unknownModels hkind (hlist (by simp [SchemaExpr.element, hkind, htarget])) htarget
    | noId hkind hlist htarget hid => exact .noId hkind hlist htarget hid
    | optional hoptional => simp [hrequired] at hoptional

/-- For a field without a source that the document states, the factory or the sampler can give null
that the schema of the field refuses, exactly where the field is required and something is missing
that the schema does not make up for. -/
theorem null_refused_iff (sampler : Sampler) (model : Model) {field : Field} {member : MemberExpr}
    (hsource : field.explicitSource? = none)
    (hmember : MemberExpr.ofField? sampler.config sampler.document field = some member) :
    (member.mayBeNull = true ∨ sampler.DrawsNull model field) ∧
        (SchemaExpr.ofField sampler.config sampler.document field).acceptsNull = false ↔
      field.isRequired = true ∧ NullIsRefused sampler.document field := by
  rw [drawsNull_iff_mayBeNull sampler model hsource hmember, or_self,
    mayBeNull_ofField_iff hsource hmember, ← Bool.not_eq_true, SchemaExpr.acceptsNull_ofField_iff,
    not_or, Bool.not_eq_false]
  constructor
  · rintro ⟨hnull, hrequired, hknown⟩
    exact ⟨hrequired, (nullIsRefused_iff sampler.config hrequired).2 ⟨hnull, hknown⟩⟩
  · rintro ⟨hrequired, hrefused⟩
    obtain ⟨hnull, hknown⟩ := (nullIsRefused_iff sampler.config hrequired).1 hrefused
    exact ⟨hnull, hrequired, hknown⟩

/-- A model without an identifier. -/
def author : Model :=
  Model.bare "Author" [{ Field.bare "name" .scalar "String" with isRequired := true }]

def authorField : Field :=
  { Field.bare "author" .relation "Author" with isRequired := true }

def authoredPost : Model :=
  Model.bare "Post" [authorField]

def authorSampler : Sampler :=
  .ofConfig .standard ⟨[author, authoredPost], [], []⟩
    { GeneratorConfig.standard with createRelationMocks := false }

theorem null_refused_iff_author :
    ∃ member, MemberExpr.ofField? authorSampler.config authorSampler.document authorField =
        some member ∧
      (member.mayBeNull = true ∨ authorSampler.DrawsNull authoredPost authorField) ∧
      (SchemaExpr.ofField authorSampler.config authorSampler.document authorField).acceptsNull =
        false := by
  have hsource : authorField.explicitSource? = none := by decide +kernel
  have htarget : authorSampler.document.target? authorField = some author := by decide +kernel
  have hmember : MemberExpr.ofField? authorSampler.config authorSampler.document authorField =
      some (.relation (.terminal .null)) := by decide +kernel
  exact ⟨_, hmember, (null_refused_iff authorSampler authoredPost hsource hmember).2
    ⟨rfl, .noId rfl rfl htarget (by decide +kernel)⟩⟩

/-- A required relation of a valid document for which the factory always holds null and the sampler
draws it, with a schema that refuses it. -/
theorem null_refused_for_author :
    authorSampler.document.validate = .ok () ∧ authoredPost ∈ authorSampler.document.models ∧
      authorField ∈ authoredPost.fields ∧ authorField.explicitSource? = none ∧
      MemberExpr.ofField? authorSampler.config authorSampler.document authorField =
        some (.relation (.terminal .null)) ∧
      authorSampler.DrawsNull authoredPost authorField ∧
      (SchemaExpr.ofField authorSampler.config authorSampler.document authorField).acceptsNull =
        false := by
  have hdraws : authorSampler.DrawsNull authoredPost authorField :=
    ⟨0, 0, .ofSeed 0, .ofSeed 0, .null, rfl, rfl⟩
  exact ⟨by decide +kernel, by decide +kernel, by decide +kernel, by decide +kernel,
    by decide +kernel, hdraws, by decide +kernel⟩

end SchemaMocks.TypeScript
