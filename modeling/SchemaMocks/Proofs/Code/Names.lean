import SchemaMocks.Proofs.Code.Scope

set_option autoImplicit false
set_option relaxedAutoImplicit false

/-!
The names in the sections of a model: which constants and types are declared, which names are read
at once, and what a scope has to provide. Expressions only mention names. A factory reads none of
them at once; a schema reads the schema library, the enums of its fields and its own constants.
-/

namespace SchemaMocks.TypeScript

namespace NameRole

def isMention : NameRole → Bool
  | readNow | readLater | inType | typeOf | supplied => true
  | constant | type | imported | reexported => false

def isDeferred : NameRole → Bool
  | readLater | inType | typeOf | supplied => true
  | readNow | constant | type | imported | reexported => false

end NameRole

section Expressions

variable (role : NameRole)

private theorem SchemaExpr.namesAs_pieces (hrole : role.isMention = false) (e : SchemaExpr) :
    namesAs role e.pieces = [] := by
  induction e with
  | array _ ih | nullable _ ih | optional _ ih =>
    unfold pieces
    cases role <;> simp_all [zodNow, NameRole.isMention]
  | _ => cases role <;> cases hrole <;> rfl

private theorem TypeRef.namesAs_pieces (hrole : role.isDeferred = false) (t : TypeRef) :
    namesAs role t.pieces = [] := by
  cases t <;> cases role <;> cases hrole <;> rfl

private theorem RelationType.namesAs_pieces (hrole : role.isDeferred = false) (t : RelationType) :
    namesAs role t.pieces = [] := by
  cases t <;> simp [pieces, TypeRef.namesAs_pieces role hrole]

private theorem namesAs_wordPieces (hrole : role.isDeferred = false) (isSupplied : Bool)
    (code : String) :
    namesAs role (wordPieces isSupplied code) = [] := by
  refine namesAs_eq_nil fun name hname => ?_
  rcases of_name_mem_wordPieces hname with ⟨rfl, -⟩ | ⟨rfl, -⟩ <;> cases hrole

private theorem MockExpr.namesAs_pieces (hrole : role.isDeferred = false) (e : MockExpr) :
    namesAs role e.pieces = [] := by
  have hlater : NameRole.readLater ≠ role := by rintro rfl; cases hrole
  induction e with
  | repeated _ ih | maybe _ ih => simp [pieces, ih, hlater]
  | _ => exact namesAs_wordPieces role hrole _ _

private theorem Terminal.namesAs_pieces (hrole : role.isDeferred = false) (t : Terminal) :
    namesAs role t.pieces = [] := by
  cases t <;> simp [pieces, MockExpr.namesAs_pieces role hrole]

private theorem MemberExpr.namesAs_pieces (hrole : role.isDeferred = false) (e : MemberExpr) :
    namesAs role e.pieces = [] := by
  have hlater : NameRole.readLater ≠ role := by rintro rfl; cases hrole
  cases e with
  | sourced _ value => exact value.namesAs_pieces role hrole
  | declared value => exact value.namesAs_pieces role hrole
  | relation value =>
    cases value with
    | terminal value => exact value.namesAs_pieces role hrole
    | expand bound call otherwise =>
      simp [pieces, RelationExpr.pieces, FactoryCall.pieces, otherwise.namesAs_pieces role hrole,
        hlater]

private theorem namesAs_memberLine (indent name : String) (value : Line) (close : String) :
    namesAs role (memberLine indent name value close) = namesAs role value := by
  simp [memberLine]

theorem namesAs_memberLines {α : Type} (indent close : String) (pieces : α → Line)
    (entries : List (String × α)) :
    namesAs role (entries.map fun entry =>
        memberLine indent entry.1 (pieces entry.2) close).flatten =
      entries.flatMap fun entry => namesAs role (pieces entry.2) := by
  rw [← List.flatMap_def, namesAs_flatMap]
  simp only [namesAs_memberLine]

end Expressions

section Declarations

variable (role : NameRole)

def declaredAs (constants types : List String) : NameRole → List String
  | .constant => constants
  | .type => types
  | _ => []

namespace ModelSchema

def stems (s : ModelSchema) : List String :=
  [s.model]
    ++ (if s.inputOmits.isSome then [s.model ++ "CreateInput", s.model ++ "UpdateInput"] else [])
    ++ (if s.hasPartial then [s.model ++ "Partial"] else [])

def constants (s : ModelSchema) : List String :=
  s.stems.map (· ++ "Schema")

def types (s : ModelSchema) : List String :=
  if s.declaresTypes then s.stems else []

private theorem namesAs_statements (hrole : role.isMention = false) (s : ModelSchema) :
    namesAs role (piecesOf s.statements) = declaredAs s.constants s.types role := by
  have hmembers : namesAs role (s.members.map fun entry =>
      memberLine "  " entry.1 entry.2.pieces ",").flatten = [] := by
    simp [namesAs_memberLines role _ _ SchemaExpr.pieces, SchemaExpr.namesAs_pieces role hrole]
  unfold statements objectStatements inputStatements partialStatements constants types stems
  cases s.declaresTypes <;> cases s.inputOmits <;> cases s.hasPartial <;> cases role <;>
    cases hrole <;>
    simp [zodNow, typeLinePieces, derivedLine, declaredAs, hmembers, ← String.toList_inj]

end ModelSchema

namespace ModelFactory

def constants (f : ModelFactory) : List String :=
  [factoryName f.model, batchName f.model]
    ++ (if f.validated.isSome then [validatedName f.model] else [])

def types (f : ModelFactory) : List String :=
  if f.mockAlias.isSome then [f.model ++ "Mock"] else []

private theorem namesAs_aliasStatements (hrole : role.isDeferred = false) (f : ModelFactory) :
    namesAs role (piecesOf f.aliasStatements) = declaredAs [] f.types role := by
  unfold aliasStatements types
  cases f.mockAlias with
  | none => cases role <;> rfl
  | some a =>
    have hrelations : namesAs role (a.relations.map fun entry =>
        memberLine "  " entry.1 entry.2.pieces ";").flatten = [] := by
      simp [namesAs_memberLines role _ _ RelationType.pieces, RelationType.namesAs_pieces role hrole]
    have hbase := a.base.namesAs_pieces role hrole
    cases role <;> cases hrole <;> simp [declaredAs, hrelations, hbase]

private theorem namesAs_singleStatement (hrole : role.isDeferred = false) (f : ModelFactory) :
    namesAs role f.singleStatement.pieces = declaredAs [factoryName f.model] [] role := by
  have hmembers : namesAs role (f.members.map fun entry =>
      memberLine "    " entry.1 entry.2.pieces ",").flatten = [] := by
    simp [namesAs_memberLines role _ _ MemberExpr.pieces, MemberExpr.namesAs_pieces role hrole]
  have hreturns := f.returns.namesAs_pieces role hrole
  unfold singleStatement
  cases role <;> cases hrole <;> simp [declaredAs, hmembers, hreturns]

private theorem namesAs_batchStatement (hrole : role.isDeferred = false) (f : ModelFactory) :
    namesAs role f.batchStatement.pieces = declaredAs [batchName f.model] [] role := by
  have hreturns := f.returns.namesAs_pieces role hrole
  unfold batchStatement
  cases f.maxDepth <;> cases role <;> cases hrole <;> simp [declaredAs, hreturns]

private theorem namesAs_validatedStatements (hrole : role.isDeferred = false) (f : ModelFactory) :
    namesAs role (piecesOf f.validatedStatements) =
      declaredAs (if f.validated.isSome then [validatedName f.model] else []) [] role := by
  have hreturns := f.returns.namesAs_pieces role hrole
  unfold validatedStatements
  cases f.validated with
  | none => cases role <;> rfl
  | some type =>
    have htype := type.namesAs_pieces role hrole
    cases role <;> cases hrole <;> simp [declaredAs, hreturns, htype]

theorem namesAs_statements (hrole : role.isDeferred = false) (f : ModelFactory) :
    namesAs role (piecesOf f.statements) = declaredAs f.constants f.types role := by
  rw [statements, piecesOf_append, piecesOf_append, piecesOf_cons, piecesOf_cons, piecesOf_nil,
    List.append_nil, namesAs_append, namesAs_append, namesAs_append,
    namesAs_aliasStatements role hrole, namesAs_singleStatement role hrole,
    namesAs_batchStatement role hrole, namesAs_validatedStatements role hrole]
  cases role <;> simp [declaredAs, constants]

end ModelFactory

theorem namesAs_enumStatements (e : EnumType) :
    namesAs role (piecesOf (enumStatements e)) =
      match role with
      | .constant | .type => [e.name]
      | .typeOf => [e.name, e.name]
      | _ => [] := by
  have hvalues : namesAs role (e.valueNames.map fun value =>
      [Piece.plain ("  " ++ value ++ ": " ++ quote value ++ ",")]).flatten = [] := by
    rw [← List.flatMap_def, namesAs_flatMap]
    simp
  unfold enumStatements
  cases role <;> simp [hvalues]

def Import.localNames (i : Import) : List String :=
  i.names.map (·.localName)

@[simp] theorem Import.localNames_plain (names : List String) (module : String) :
    (plain names module).localNames = names := by
  simp [localNames, plain, Function.comp_def]

@[simp] theorem Import.localNames_zod : zod.localNames = ["z"] := rfl

theorem Import.namesAs_pieces (i : Import) :
    namesAs role i.pieces = if role = .imported then i.localNames else [] := by
  have hname (name : ImportedName) :
      namesAs role name.pieces = if role = .imported then [name.localName] else [] := by
    unfold ImportedName.pieces
    split <;> simp [eq_comm]
  have hnames (names : List ImportedName) :
      namesAs role (List.intercalate [.plain ", "] (names.map ImportedName.pieces)) =
        if role = .imported then names.map (·.localName) else [] := by
    induction names with
    | nil => simp
    | cons name rest ih =>
      cases rest with
      | nil => simp [hname]
      | cons next rest =>
        simp only [List.map_cons, List.intercalate_cons_cons, namesAs_append, hname] at ih ⊢
        rw [ih]
        split <;> simp
  simp [pieces, hnames, localNames]

/-- What a section gives to a file in a role in which nothing is referred to. -/
def Section.given : Section → NameRole → List String
  | imports list, .imported => list.flatMap Import.localNames
  | enum e, .constant | enum e, .type => [e.name]
  | schema s, role => declaredAs s.constants s.types role
  | factory f, role => declaredAs f.constants f.types role
  | exportFaker, .reexported => ["faker"]
  | _, _ => []

private theorem Section.namesAs_pieces (hrole : role.isMention = false) (s : Section) :
    namesAs role s.pieces = s.given role := by
  have hdeferred : role.isDeferred = false := by cases role <;> first | rfl | cases hrole
  cases s with
  | imports list =>
    have himports : namesAs role (pieces (imports list)) =
        list.flatMap fun i => namesAs role i.pieces := by
      rw [pieces, piecesOf, statements, List.flatMap_map, namesAs_flatMap]
      simp
    rw [himports]
    cases role <;> cases hrole <;> simp [given, Import.namesAs_pieces]
  | «enum» e =>
    refine (namesAs_enumStatements role e).trans ?_
    cases role <;> cases hrole <;> rfl
  | schema s =>
    refine (s.namesAs_statements role hrole).trans ?_
    cases role <;> rfl
  | factory f =>
    refine (f.namesAs_statements role hdeferred).trans ?_
    cases role <;> rfl
  | reexports modules =>
    have hmodules : namesAs role (pieces (reexports modules)) = [] := by
      rw [pieces, piecesOf, statements, List.flatMap_map, namesAs_flatMap]
      simp
    rw [hmodules]
    cases role <;> rfl
  | seed _ | heading _ | exportFaker => cases role <;> cases hrole <;> rfl

theorem mem_namesAs_sections (hrole : role.isMention = false) {sections : List Section}
    {s : Section} (hs : s ∈ sections) {name : String} (hname : name ∈ s.given role) :
    name ∈ namesAs role (piecesOf (sections.flatMap Section.statements)) := by
  have hpieces : piecesOf (sections.flatMap Section.statements) =
      sections.flatMap Section.pieces := List.flatMap_assoc
  rw [hpieces, namesAs_flatMap]
  exact List.mem_flatMap.2 ⟨s, hs, s.namesAs_pieces role hrole ▸ hname⟩

def SourceFile.given (file : SourceFile) : List String :=
  file.sections.flatMap fun s => s.given role

theorem SourceFile.namesAs_pieces (hrole : role.isMention = false) (file : SourceFile) :
    namesAs role file.pieces = file.given role := by
  rw [pieces_eq, namesAs_flatMap]
  exact List.flatMap_congr fun s _ => s.namesAs_pieces role hrole

def Section.importList : Section → List Import
  | imports list => list
  | _ => []

def SourceFile.imports (file : SourceFile) : List Import :=
  file.sections.flatMap Section.importList

theorem SourceFile.given_imported (file : SourceFile) :
    file.given .imported = file.imports.flatMap Import.localNames := by
  rw [given, imports, List.flatMap_assoc]
  refine List.flatMap_congr fun s _ => ?_
  cases s <;> rfl

theorem SourceFile.mem_given {file : SourceFile} (s : Section) (hs : s ∈ file.sections)
    {name : String} (hname : name ∈ s.given role) : name ∈ file.given role :=
  List.mem_flatMap.2 ⟨s, hs, hname⟩

theorem SourceFile.mem_values (file : SourceFile) {name : String}
    (h : name ∈ file.given .imported ∨ name ∈ file.given .constant) : name ∈ file.scope.values := by
  rw [← file.namesAs_pieces .imported rfl, ← file.namesAs_pieces .constant rfl] at h
  exact List.mem_append.2 h

theorem SourceFile.mem_types (file : SourceFile) {name : String}
    (h : name ∈ file.given .imported ∨ name ∈ file.given .type) : name ∈ file.scope.types := by
  rw [← file.namesAs_pieces .imported rfl, ← file.namesAs_pieces .type rfl] at h
  exact List.mem_append.2 h

end Declarations

section Needs

variable {config : GeneratorConfig} {doc : Document} {model : Model} {scope : Scope}

theorem ModelSchema.name_mem_types (htypes : config.createModelTypes) :
    model.name ∈ (ModelSchema.ofModel config doc model).types := by
  simp [types, ofModel, htypes, stems]

theorem ModelFactory.mockType_mem_types (hmock : hasMockType config model) :
    model.name ++ "Mock" ∈ (ModelFactory.ofModel config doc model).types := by
  simp [types, ofModel, hmock]

theorem ModelFactory.calledFactory_mem_constants {field : Field} {target : Model}
    (hname : target.name = model.name) : MockDependencies.calledFactory field target ∈
      (ModelFactory.ofModel config doc model).constants := by
  refine List.mem_append_left _ ?_
  unfold MockDependencies.calledFactory
  split <;> simp [hname, ofModel]

/-- What a scope has to provide for the schemas of a model. -/
structure Scope.SchemaNeeds (config : GeneratorConfig) (doc : Document) (model : Model)
    (scope : Scope) : Prop where
  zod : "z" ∈ scope.values
  zodType : "z" ∈ scope.types
  own : (ModelSchema.ofModel config doc model).constants ⊆ scope.values
  enums : ∀ field ∈ model.schemaFields, field.kind = .enum → (doc.enum? field.typeName).isSome →
    field.typeName ∈ scope.values
  related : ∀ field ∈ model.relationFields, ∀ target, doc.target? field = some target →
    target.name ++ "Schema" ∈ scope.values

/-- What a scope has to provide for the factories of a model. -/
structure Scope.FactoryNeeds (config : GeneratorConfig) (doc : Document) (model : Model)
    (scope : Scope) : Prop where
  faker : "faker" ∈ scope.values
  own : factoryName model.name ∈ scope.values
  schema : config.createZodSchemas → model.name ++ "Schema" ∈ scope.values
  base : config.createZodSchemas → scope.Covers (baseType config model.name).pieces
  mock : hasMockType config model → model.name ++ "Mock" ∈ scope.types
  referred : hasMockType config model → ∀ field ∈ model.relationFields, ∀ target,
    doc.target? field = some target → scope.Covers (referredType config target).pieces
  called : config.createRelationMocks → ∀ field ∈ model.relationFields, ∀ target,
    doc.target? field = some target → MockDependencies.calledFactory field target ∈ scope.values

private theorem covers_memberLine (indent name : String) (value : Line) (close : String) :
    scope.Covers (memberLine indent name value close) ↔ scope.Covers value := by
  simp [memberLine]

private theorem covers_zodNow (hzod : "z" ∈ scope.values) (rest : List Piece) :
    scope.Covers (zodNow :: rest) ↔ scope.Covers rest := by
  simp [zodNow, Scope.Provides, hzod]

private theorem covers_typeLinePieces (name schema : String) :
    scope.Covers (typeLinePieces name schema) ↔ "z" ∈ scope.types ∧ schema ∈ scope.values := by
  simp [typeLinePieces, Scope.Provides]

private theorem covers_derivedLine (name source rest : String) :
    scope.Covers (derivedLine name source rest) ↔ source ∈ scope.values := by
  simp [derivedLine, Scope.Provides]

namespace Scope.SchemaNeeds

private theorem covers_element (h : scope.SchemaNeeds config doc model) {field : Field}
    (hfield : field ∈ model.fields) :
    scope.Covers (SchemaExpr.element config doc field).pieces := by
  have hzod := covers_zodNow h.zod
  unfold SchemaExpr.element
  cases hkind : field.kind with
  | «enum» =>
    dsimp only
    split
    · rename_i hknown
      have hmem : field ∈ model.schemaFields := List.mem_filter.2 ⟨hfield, by simp [hkind]⟩
      simp [SchemaExpr.pieces, hzod, Provides, h.enums field hmem hkind hknown]
    · simp [SchemaExpr.pieces, hzod]
  | scalar =>
    cases field.scalar? with
    | none => simp [SchemaExpr.pieces, hzod]
    | some scalar => cases scalar <;> simp [SchemaExpr.ofScalar, SchemaExpr.pieces, hzod]
  | relation =>
    cases htarget : doc.target? field with
    | none => simp [SchemaExpr.pieces, hzod]
    | some target =>
      have hmem : field ∈ model.relationFields :=
        List.mem_filter.2 ⟨hfield, by simp [Field.isRelation, hkind]⟩
      simp [SchemaExpr.pieces, hzod, Provides, h.zodType, h.related field hmem target htarget]
  | unsupported => simp [SchemaExpr.pieces, hzod]

private theorem covers_ofField (h : scope.SchemaNeeds config doc model) {field : Field}
    (hfield : field ∈ model.fields) :
    scope.Covers (SchemaExpr.ofField config doc field).pieces := by
  have helement := h.covers_element hfield
  have hzod := covers_zodNow h.zod
  unfold SchemaExpr.ofField
  cases field.isList <;> cases field.isRequired <;> cases field.hasDefault <;>
    simp [SchemaExpr.pieces, helement, hzod]

theorem covers (h : scope.SchemaNeeds config doc model) :
    scope.Covers (piecesOf (ModelSchema.ofModel config doc model).statements) := by
  have hown := h.own
  have hmembers : ∀ member ∈ (ModelSchema.ofModel config doc model).members,
      scope.Covers (memberLine "  " member.1 member.2.pieces ",") := by
    simp only [ModelSchema.ofModel, List.forall_mem_map, covers_memberLine]
    exact fun field hfield => h.covers_ofField (List.mem_of_mem_filter hfield)
  generalize ModelSchema.ofModel config doc model = s at hown hmembers
  have hlines := (covers_flatten _).2 (List.forall_mem_map.2 hmembers)
  have hobject : s.model ++ "Schema" ∈ scope.values := hown (by simp [ModelSchema.constants,
    ModelSchema.stems])
  have hinputs (homits : s.inputOmits.isSome) : s.model ++ "CreateInputSchema" ∈ scope.values ∧
      s.model ++ "UpdateInputSchema" ∈ scope.values := by
    constructor <;>
      exact hown (by simp [ModelSchema.constants, ModelSchema.stems, homits, String.append_assoc])
  have hpartial (h : s.hasPartial) : s.model ++ "PartialSchema" ∈ scope.values :=
    hown (by simp [ModelSchema.constants, ModelSchema.stems, h, String.append_assoc])
  have hzod := covers_zodNow h.zod
  have htype := h.zodType
  rw [ModelSchema.statements, piecesOf_append, piecesOf_append, covers_append, covers_append]
  refine ⟨⟨?_, ?_⟩, ?_⟩
  · unfold ModelSchema.objectStatements
    cases s.declaresTypes <;>
      simp [hzod, hlines, covers_typeLinePieces, hobject, htype, Provides]
  · unfold ModelSchema.inputStatements
    cases homits : s.inputOmits with
    | none => simp
    | some omits =>
      obtain ⟨hcreate, hupdate⟩ := hinputs (by simp [homits])
      cases s.declaresTypes <;>
        simp [covers_derivedLine, covers_typeLinePieces, hobject, hcreate, hupdate, htype]
  · unfold ModelSchema.partialStatements
    cases hhas : s.hasPartial with
    | false => simp
    | true =>
      cases s.declaresTypes <;>
        simp [covers_derivedLine, covers_typeLinePieces, hobject, hpartial hhas, htype]

end Scope.SchemaNeeds

namespace Scope.FactoryNeeds

private theorem covers_mockType (h : scope.FactoryNeeds config doc model) :
    scope.Covers (mockType config model).pieces := by
  unfold mockType referredType
  split
  · rename_i hzod
    split
    · rename_i hmock
      simp [TypeRef.pieces, Provides, h.mock hmock]
    · exact h.base hzod
  · simp [TypeRef.pieces]

private theorem covers_relationType (h : scope.FactoryNeeds config doc model)
    (hmock : hasMockType config model) {field : Field} (hfield : field ∈ model.relationFields) :
    scope.Covers (RelationType.ofField config doc field).pieces := by
  unfold RelationType.ofField
  cases htarget : doc.target? field with
  | none => simp [RelationType.pieces]
  | some target =>
    have htype := h.referred hmock field hfield target htarget
    cases field.isList <;> simp [RelationType.pieces, htype]

end Scope.FactoryNeeds

private theorem covers_wordPieces (hfaker : "faker" ∈ scope.values) (isSupplied : Bool)
    (code : String) :
    scope.Covers (wordPieces isSupplied code) := by
  intro role name hname
  rcases of_name_mem_wordPieces hname with ⟨rfl, rfl⟩ | ⟨rfl, -⟩
  · exact hfaker
  · trivial

private theorem covers_mockExpr (hfaker : "faker" ∈ scope.values) (e : MockExpr) :
    scope.Covers e.pieces := by
  induction e with
  | repeated _ ih | maybe _ ih => simp [MockExpr.pieces, ih, Scope.Provides, hfaker]
  | _ => exact covers_wordPieces hfaker _ _

private theorem covers_terminal (hfaker : "faker" ∈ scope.values) (t : Terminal) :
    scope.Covers t.pieces := by
  cases t <;> simp [Terminal.pieces, covers_mockExpr hfaker]

namespace Scope.FactoryNeeds

private theorem covers_relationExpr (h : scope.FactoryNeeds config doc model) {field : Field}
    (hfield : field ∈ model.relationFields) :
    scope.Covers (RelationExpr.ofField config doc field).pieces := by
  unfold RelationExpr.ofField
  cases htarget : doc.target? field with
  | none => simp [RelationExpr.pieces, Terminal.pieces]
  | some target =>
    dsimp only
    split
    · rename_i hcreate
      have hcallee := h.called hcreate field hfield target htarget
      simpa [RelationExpr.pieces, FactoryCall.pieces, covers_terminal h.faker, Provides,
        FactoryCall.callee, MockDependencies.calledFactory] using hcallee
    · exact covers_terminal h.faker _

private theorem covers_memberExpr (h : scope.FactoryNeeds config doc model) {field : Field}
    (hfield : field ∈ model.fields) {member : MemberExpr}
    (hmember : MemberExpr.ofField? config doc field = some member) :
    scope.Covers member.pieces := by
  unfold MemberExpr.ofField? at hmember
  cases hkind : field.kind with
  | scalar =>
    rw [hkind] at hmember
    cases hmember
    exact covers_mockExpr h.faker _
  | «enum» =>
    simp only [hkind] at hmember
    split at hmember <;>
      · cases hmember
        exact covers_mockExpr h.faker _
  | relation =>
    rw [hkind] at hmember
    cases hmember
    exact h.covers_relationExpr (List.mem_filter.2 ⟨hfield, by simp [Field.isRelation, hkind]⟩)
  | unsupported =>
    rw [hkind] at hmember
    cases hmember

private theorem covers_aliasStatements (h : scope.FactoryNeeds config doc model) :
    scope.Covers (piecesOf (ModelFactory.ofModel config doc model).aliasStatements) := by
  unfold ModelFactory.aliasStatements ModelFactory.ofModel
  dsimp only
  split
  · simp
  · rename_i a halias
    rw [Option.ite_none_right_eq_some] at halias
    obtain ⟨hmock, ha⟩ := halias
    cases ha
    have hzod : config.createZodSchemas = true := (Bool.and_eq_true_iff.1 hmock).1
    have hrelations : ∀ member ∈ model.relationFields.map fun field =>
        (field.name, RelationType.ofField config doc field),
        scope.Covers (memberLine "  " member.1 member.2.pieces ";") := by
      simp only [List.forall_mem_map, covers_memberLine]
      exact fun field hfield => h.covers_relationType hmock hfield
    have hlines := (covers_flatten _).2 (List.forall_mem_map.2 hrelations)
    simp [-List.map_map, hlines, h.base hzod, Provides]

private theorem covers_singleStatement (h : scope.FactoryNeeds config doc model) :
    scope.Covers (ModelFactory.ofModel config doc model).singleStatement.pieces := by
  have hmembers : ∀ member ∈ (ModelFactory.ofModel config doc model).members,
      scope.Covers (memberLine "    " member.1 member.2.pieces ",") := by
    simp only [ModelFactory.ofModel, List.mem_filterMap, Option.map_eq_some_iff, covers_memberLine]
    rintro _ ⟨field, hfield, member, hmember, rfl⟩
    exact h.covers_memberExpr hfield hmember
  have hlines := (covers_flatten _).2 (List.forall_mem_map.2 hmembers)
  have hreturns : scope.Covers (ModelFactory.ofModel config doc model).returns.pieces :=
    h.covers_mockType
  unfold ModelFactory.singleStatement
  simp [hlines, hreturns, Provides]

private theorem covers_batchStatement (h : scope.FactoryNeeds config doc model) :
    scope.Covers (ModelFactory.ofModel config doc model).batchStatement.pieces := by
  have hown : factoryName (ModelFactory.ofModel config doc model).model ∈ scope.values := h.own
  have hreturns : scope.Covers (ModelFactory.ofModel config doc model).returns.pieces :=
    h.covers_mockType
  unfold ModelFactory.batchStatement
  cases (ModelFactory.ofModel config doc model).maxDepth <;> simp [hreturns, hown, Provides]

private theorem covers_validatedStatements (h : scope.FactoryNeeds config doc model) :
    scope.Covers (piecesOf (ModelFactory.ofModel config doc model).validatedStatements) := by
  have hreturns := h.covers_mockType
  unfold ModelFactory.validatedStatements ModelFactory.ofModel
  dsimp only
  split
  · simp
  · rename_i type hvalidated
    rw [Option.ite_none_right_eq_some] at hvalidated
    obtain ⟨hzod, htype⟩ := hvalidated
    cases htype
    simp [hreturns, h.base hzod, h.own, h.schema hzod, Provides]

theorem covers (h : scope.FactoryNeeds config doc model) :
    scope.Covers (piecesOf (ModelFactory.ofModel config doc model).statements) := by
  rw [ModelFactory.statements, piecesOf_append, piecesOf_append, covers_append, covers_append]
  refine ⟨⟨h.covers_aliasStatements, ?_⟩, h.covers_validatedStatements⟩
  simp [h.covers_singleStatement, h.covers_batchStatement]

end Scope.FactoryNeeds

theorem covers_imports (list : List Import) : scope.Covers (Section.imports list).pieces := by
  intro role name hname
  rw [Section.pieces, Section.statements, piecesOf, List.flatMap_map] at hname
  obtain ⟨i, -, hname⟩ := List.mem_flatMap.1 hname
  have hrole := mem_namesAs.2 hname
  rw [Statement.pieces_mk, List.flatten_singleton, i.namesAs_pieces role] at hrole
  split at hrole
  · rename_i himported
    subst himported
    trivial
  · cases hrole

theorem covers_reexports (modules : List String) :
    scope.Covers (Section.reexports modules).pieces := by
  rw [Section.pieces, Section.statements, piecesOf, List.flatMap_map, Scope.covers_flatMap]
  simp

theorem covers_heading (title : String) : scope.Covers (Section.heading title).pieces := by
  simp [Section.pieces, Section.statements]

theorem covers_seed (value : UInt64) :
    scope.Covers (Section.seed value).pieces ↔ "faker" ∈ scope.values := by
  simp [Section.pieces, Section.statements, Scope.Provides]

theorem covers_exportFaker : scope.Covers Section.exportFaker.pieces ↔ "faker" ∈ scope.values := by
  simp [Section.pieces, Section.statements, Scope.Provides]

theorem covers_enum {e : EnumType} (he : e.name ∈ scope.values) :
    scope.Covers (Section.enum e).pieces := by
  have hvalues : scope.Covers (e.valueNames.map fun value =>
      [Piece.plain ("  " ++ value ++ ": " ++ quote value ++ ",")]).flatten := by
    rw [Scope.covers_flatten]
    simp
  simp [Section.pieces, Section.statements, enumStatements, hvalues, Scope.Provides, he]

theorem SourceFile.covers_iff (file : SourceFile) :
    scope.Covers file.pieces ↔ ∀ s ∈ file.sections, scope.Covers s.pieces := by
  rw [pieces_eq, Scope.covers_flatMap]

end Needs

end SchemaMocks.TypeScript
