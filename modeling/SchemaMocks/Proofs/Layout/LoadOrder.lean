import SchemaMocks.Proofs.Layout.Declarations
import SchemaMocks.Proofs.Layout.References
import SchemaMocks.TypeScript.Bundle

set_option autoImplicit false
set_option relaxedAutoImplicit false

/-!
References and the order of statements in the bundled layout. Each of its files declares or imports
what its code refers to, and when it is loaded, each statement finds what it reads at once among the
imports and the constants of the statements before it. Only enums are read at once across models.
Code that the documentation of a field supplies stands in a factory as it is written; what it refers
to is not looked into.
-/

namespace SchemaMocks.TypeScript

section Loading

variable {known : List String}

private theorem LoadsFrom.readNow_subset {statements : List Statement}
    (h : LoadsFrom known statements) :
    namesAs .readNow (piecesOf statements) ⊆
      known ++ namesAs .constant (piecesOf statements) := by
  induction statements generalizing known with
  | nil => simp
  | cons s rest ih =>
    intro name hname
    rw [piecesOf_cons, namesAs_append] at hname ⊢
    rcases List.mem_append.1 hname with hname | hname
    · exact List.mem_append_left _ (h.1 name hname)
    · rw [← List.append_assoc]
      exact ih h.2 hname

private theorem loadsFrom_flatMap {α : Type} {statements : α → List Statement} {items : List α}
    (h : ∀ item ∈ items, LoadsFrom known (statements item)) :
    LoadsFrom known (items.flatMap statements) := by
  induction items generalizing known with
  | nil => trivial
  | cons item rest ih =>
    obtain ⟨hitem, hrest⟩ := List.forall_mem_cons.1 h
    rw [List.flatMap_cons]
    exact loadsFrom_append.2 ⟨hitem, ih fun other hother =>
      (hrest other hother).mono (List.subset_append_left _ _)⟩

private theorem SchemaExpr.readNow_element {config : GeneratorConfig} {doc : Document}
    {field : Field}
    {name : String} (h : name ∈ namesAs .readNow (element config doc field).pieces) :
    name = "z" ∨
      field.kind = .enum ∧ (doc.enum? field.typeName).isSome ∧ name = field.typeName := by
  unfold element at h
  cases hkind : field.kind with
  | scalar =>
    refine Or.inl ?_
    cases hscalar : field.scalar? with
    | none => simpa [hkind, hscalar, pieces, zodNow] using h
    | some scalar =>
      cases scalar <;> simpa [hkind, hscalar, ofScalar, pieces, zodNow] using h
  | relation =>
    refine Or.inl ?_
    cases htarget : doc.target? field <;> simpa [hkind, htarget, pieces, zodNow] using h
  | «enum» =>
    simp only [hkind] at h
    split at h
    · rename_i hknown
      have hname : name = "z" ∨ name = field.typeName := by simpa [pieces, zodNow] using h
      exact hname.imp id fun hname => ⟨rfl, hknown, hname⟩
    · exact Or.inl (by simpa [pieces, zodNow] using h)
  | unsupported => exact Or.inl (by simpa [hkind, pieces, zodNow] using h)

private theorem SchemaExpr.readNow_ofField (config : GeneratorConfig) (doc : Document)
    (field : Field) :
    namesAs .readNow (ofField config doc field).pieces ⊆
      "z" :: namesAs .readNow (element config doc field).pieces := by
  unfold ofField
  cases field.isList <;> cases field.isRequired <;> cases field.hasDefault <;>
    simp [pieces, zodNow]

namespace ModelSchema

variable {s : ModelSchema}

private theorem loadsFrom_objectStatements (hzod : "z" ∈ known)
    (hmembers : ∀ member ∈ s.members, namesAs .readNow member.2.pieces ⊆ known) :
    LoadsFrom known s.objectStatements := by
  have hlines : ∀ name ∈ namesAs .readNow (s.members.map fun entry =>
      memberLine "  " entry.1 entry.2.pieces ",").flatten, name ∈ known := by
    rw [namesAs_memberLines .readNow _ _ SchemaExpr.pieces]
    intro name hname
    obtain ⟨member, hmember, hname⟩ := List.mem_flatMap.1 hname
    exact hmembers member hmember hname
  unfold objectStatements
  cases s.declaresTypes <;> simpa [LoadsFrom, zodNow, typeLinePieces, hzod] using hlines

private theorem schema_mem_objectStatements (s : ModelSchema) :
    s.model ++ "Schema" ∈ namesAs .constant (piecesOf s.objectStatements) := by
  unfold objectStatements
  simp

private theorem loadsFrom_inputStatements (hschema : s.model ++ "Schema" ∈ known) :
    LoadsFrom known s.inputStatements := by
  unfold inputStatements
  cases s.inputOmits <;> cases s.declaresTypes <;>
    simp [LoadsFrom, derivedLine, typeLinePieces, hschema]

private theorem loadsFrom_partialStatements (hschema : s.model ++ "Schema" ∈ known) :
    LoadsFrom known s.partialStatements := by
  unfold partialStatements
  cases s.hasPartial <;> cases s.declaresTypes <;>
    simp [LoadsFrom, derivedLine, typeLinePieces, hschema]

private theorem loadsFrom_statements (hzod : "z" ∈ known)
    (hmembers : ∀ member ∈ s.members, namesAs .readNow member.2.pieces ⊆ known) :
    LoadsFrom known s.statements := by
  have hschema := s.schema_mem_objectStatements
  refine loadsFrom_append.2 ⟨loadsFrom_append.2 ⟨loadsFrom_objectStatements hzod hmembers,
    loadsFrom_inputStatements (List.mem_append_right _ hschema)⟩, loadsFrom_partialStatements ?_⟩
  rw [piecesOf_append, namesAs_append]
  exact List.mem_append_right _ (List.mem_append_left _ hschema)

end ModelSchema

private theorem ModelFactory.loadsFrom_statements (f : ModelFactory) :
    LoadsFrom known f.statements :=
  loadsFrom_of_readNow_eq_nil (f.namesAs_statements .readNow rfl)

private theorem loadsFrom_imports (list : List Import) :
    LoadsFrom known (Section.imports list).statements := by
  refine loadsFrom_of_readNow_eq_nil ?_
  rw [Section.statements, piecesOf, List.flatMap_map, namesAs_flatMap]
  simp [Import.namesAs_pieces]

private theorem loadsFrom_enumStatements (e : EnumType) : LoadsFrom known (enumStatements e) :=
  loadsFrom_of_readNow_eq_nil (namesAs_enumStatements .readNow e)

end Loading

namespace Bundle

variable {config : GeneratorConfig} {doc : Document}

/-- How the statements of a file are loaded. -/
structure LoadsInOrder (doc : Document) (file : SourceFile) : Prop where
  /-- What a statement reads at once is imported, or a constant of an earlier statement. -/
  earlier : ∀ before s after, file.statements = before ++ s :: after →
    ∀ name ∈ namesAs .readNow s.pieces,
      name ∈ namesAs .imported file.pieces ∨ name ∈ namesAs .constant (piecesOf before)
  /-- What a section reads at once is imported, an enum, or a constant of its own. -/
  within : ∀ s ∈ file.sections, ∀ name ∈ namesAs .readNow s.pieces,
    name ∈ namesAs .imported file.pieces ∨ name ∈ doc.enums.map (·.name) ∨
      name ∈ namesAs .constant s.pieces

/-- What a scope has to provide for the factories of all models. -/
structure ProvidesModels (config : GeneratorConfig) (doc : Document) (scope : Scope) : Prop where
  faker : "faker" ∈ scope.values
  constants : ∀ model ∈ doc.models,
    (ModelFactory.ofModel config doc model).constants ⊆ scope.values
  types : ∀ model ∈ doc.models, (ModelFactory.ofModel config doc model).types ⊆ scope.types
  schemas : config.createZodSchemas → ∀ model ∈ doc.models, model.name ++ "Schema" ∈ scope.values
  modelTypes : config.createZodSchemas → config.createModelTypes → ∀ model ∈ doc.models,
    model.name ∈ scope.types
  zod : config.createZodSchemas → config.createModelTypes = false → "z" ∈ scope.types

private theorem ProvidesModels.needs {scope : Scope} (h : ProvidesModels config doc scope)
    {model : Model}
    (hmodel : model ∈ doc.models) : scope.FactoryNeeds config doc model := by
  have hbase (hzod : config.createZodSchemas = true) {other : Model} (hother : other ∈ doc.models) :
      scope.Covers (baseType config other.name).pieces := by
    unfold baseType
    cases htypes : config.createModelTypes with
    | true => simpa [TypeRef.pieces, Scope.Provides] using h.modelTypes hzod htypes other hother
    | false =>
      simpa [TypeRef.pieces, Scope.Provides, h.zod hzod htypes] using h.schemas hzod other hother
  have hmock {other : Model} (hother : other ∈ doc.models) (hmock : hasMockType config other) :
      other.name ++ "Mock" ∈ scope.types :=
    h.types other hother (ModelFactory.mockType_mem_types hmock)
  have htarget {field : Field} {target : Model} (htarget : doc.target? field = some target) :
      target ∈ doc.models := (Document.mem_of_model?_eq_some htarget).1
  refine ⟨h.faker, h.constants model hmodel List.mem_cons_self,
    fun hzod => h.schemas hzod model hmodel, fun hzod => hbase hzod hmodel, hmock hmodel, ?_, ?_⟩
  · intro hmodelMock field _ target hfield
    have hzod : config.createZodSchemas = true := (Bool.and_eq_true_iff.1 hmodelMock).1
    unfold referredType
    split
    · rename_i htargetMock
      simpa [TypeRef.pieces, Scope.Provides] using hmock (htarget hfield) htargetMock
    · exact hbase hzod (htarget hfield)
  · intro _ field _ target hfield
    exact h.constants target (htarget hfield) (ModelFactory.calledFactory_mem_constants rfl)

/-- The sections that the files of the layout have next to their imports, by what a file has. -/
inductive IsSection (config : GeneratorConfig) (doc : Document) (withSchemas withMocks : Bool) :
    Section → Prop where
  | heading (title : String) : IsSection config doc withSchemas withMocks (.heading title)
  | seed (hmocks : withMocks) (value : UInt64) :
    IsSection config doc withSchemas withMocks (.seed value)
  | enum (hschemas : withSchemas) {e : EnumType} (he : e ∈ doc.enums) :
    IsSection config doc withSchemas withMocks (.enum e)
  | schema (hschemas : withSchemas) {model : Model} (hmodel : model ∈ doc.models) :
    IsSection config doc withSchemas withMocks (.schema (ModelSchema.ofModel config doc model))
  | factory (hmocks : withMocks) {model : Model} (hmodel : model ∈ doc.models) :
    IsSection config doc withSchemas withMocks (.factory (ModelFactory.ofModel config doc model))

section Sections

variable {withSchemas withMocks : Bool} {s : Section}

private theorem isSection_of_mem_seedSections (hmocks : withMocks) (h : s ∈ seedSections config) :
    IsSection config doc withSchemas withMocks s := by
  unfold seedSections at h
  split at h
  · cases List.mem_singleton.1 h
    exact .seed hmocks _
  · cases h

private theorem isSection_of_mem_mockSections (hmocks : withMocks)
    (h : s ∈ mockSections config doc) :
    IsSection config doc withSchemas withMocks s := by
  rcases List.mem_cons.1 h with rfl | h
  · exact .heading _
  · obtain ⟨model, hmodel, rfl⟩ := List.mem_map.1 h
    exact .factory hmocks hmodel

private theorem isSection_of_mem_schemaSections (h : s ∈ schemaSections config doc) :
    IsSection config doc config.createZodSchemas withMocks s := by
  unfold schemaSections at h
  split at h
  · rename_i hzod
    rcases List.mem_append.1 h with h | h
    · split at h
      · cases h
      · rcases List.mem_cons.1 h with rfl | h
        · exact .heading _
        · obtain ⟨e, he, rfl⟩ := List.mem_map.1 h
          exact .enum hzod he
    · rcases List.mem_cons.1 h with rfl | h
      · exact .heading _
      · obtain ⟨model, hmodel, rfl⟩ := List.mem_map.1 h
        exact .schema hzod hmodel
  · cases h

end Sections

structure HasBody (config : GeneratorConfig) (doc : Document) (withSchemas withMocks : Bool)
    (file : SourceFile) (list : List Import) (body : List Section) : Prop where
  sections : file.sections = .imports list :: body
  isSection : ∀ s ∈ body, IsSection config doc withSchemas withMocks s

def indexImports (config : GeneratorConfig) (withMocks : Bool) : List Import :=
  (if config.createZodSchemas then [Import.zod] else [])
    ++ if withMocks then [Import.faker config.mockDataLocale] else []

private theorem indexFile_hasBody (withMocks : Bool) :
    HasBody config doc config.createZodSchemas withMocks (indexFile config doc withMocks)
      (indexImports config withMocks)
      ((if withMocks then seedSections config else []) ++ schemaSections config doc
        ++ if withMocks then mockSections config doc else []) where
  sections := rfl
  isSection s hs := by
    rcases List.mem_append.1 hs with hs | hs
    · rcases List.mem_append.1 hs with hs | hs
      · split at hs
        · rename_i hmocks
          exact isSection_of_mem_seedSections hmocks hs
        · cases hs
      · exact isSection_of_mem_schemaSections hs
    · split at hs
      · rename_i hmocks
        exact isSection_of_mem_mockSections hmocks hs
      · cases hs

def mocksImports (config : GeneratorConfig) (doc : Document) : List Import :=
  (if config.createZodSchemas && !config.createModelTypes then [Import.zod] else [])
    ++ [Import.faker config.mockDataLocale]
    ++ if (indexNames config doc).isEmpty then [] else [Import.plain (indexNames config doc) "./index"]

private theorem mocksFile_hasBody : HasBody config doc false true (mocksFile config doc)
    (mocksImports config doc) (seedSections config ++ mockSections config doc) where
  sections := rfl
  isSection _ hs := (List.mem_append.1 hs).elim (isSection_of_mem_seedSections rfl)
    (isSection_of_mem_mockSections rfl)

structure ProvidesSchemas (config : GeneratorConfig) (doc : Document) (scope : Scope) : Prop where
  zod : "z" ∈ scope.values ∧ "z" ∈ scope.types
  enums : ∀ e ∈ doc.enums, e.name ∈ scope.values
  constants : ∀ model ∈ doc.models, (ModelSchema.ofModel config doc model).constants ⊆ scope.values

private theorem ProvidesSchemas.needs {scope : Scope} (h : ProvidesSchemas config doc scope)
    {model : Model}
    (hmodel : model ∈ doc.models) : scope.SchemaNeeds config doc model where
  zod := h.zod.1
  zodType := h.zod.2
  own := h.constants model hmodel
  enums field _ _ hknown := by
    obtain ⟨e, he, hname⟩ := PerModel.exists_enum_of_isSome hknown
    exact hname ▸ h.enums e he
  related field _ target htarget :=
    h.constants target (Document.mem_of_model?_eq_some htarget).1 List.mem_cons_self

section Body

variable {withSchemas withMocks : Bool}

private theorem IsSection.covers {scope : Scope} {s : Section}
    (hs : IsSection config doc withSchemas withMocks s)
    (hschemas : withSchemas → ProvidesSchemas config doc scope)
    (hmocks : withMocks → ProvidesModels config doc scope) : scope.Covers s.pieces := by
  cases hs with
  | heading title => exact covers_heading title
  | seed h value => exact (covers_seed value).2 (hmocks h).faker
  | «enum» h he => exact covers_enum ((hschemas h).enums _ he)
  | schema h hmodel => exact ((hschemas h).needs hmodel).covers
  | factory h hmodel => exact ((hmocks h).needs hmodel).covers

private theorem IsSection.loadsFrom {known : List String} {s : Section}
    (hs : IsSection config doc withSchemas withMocks s) (hfaker : withMocks → "faker" ∈ known)
    (hzod : withSchemas → "z" ∈ known) (henums : withSchemas → doc.enums.map (·.name) ⊆ known) :
    LoadsFrom known s.statements := by
  cases hs with
  | heading title => simp [Section.statements, LoadsFrom]
  | seed h value => simp [Section.statements, LoadsFrom, hfaker h]
  | «enum» _ _ => exact loadsFrom_enumStatements _
  | schema h hmodel =>
    refine ModelSchema.loadsFrom_statements (hzod h) ?_
    simp only [ModelSchema.ofModel, List.forall_mem_map]
    intro field _ name hname
    rcases List.mem_cons.1 (SchemaExpr.readNow_ofField config doc field hname) with rfl | hname
    · exact hzod h
    · rcases SchemaExpr.readNow_element hname with rfl | ⟨-, hknown, rfl⟩
      · exact hzod h
      · obtain ⟨e, he, hname⟩ := PerModel.exists_enum_of_isSome hknown
        exact hname ▸ henums h (List.mem_map_of_mem he)
  | factory _ _ => exact ModelFactory.loadsFrom_statements _

namespace HasBody

variable {file : SourceFile} {list : List Import} {body : List Section}
  (h : HasBody config doc withSchemas withMocks file list body)

include h

private theorem imports : file.imports = list := by
  have hbody : body.flatMap Section.importList = [] := by
    refine List.flatMap_eq_nil_iff.2 fun s hs => ?_
    cases h.isSection s hs <;> rfl
  rw [SourceFile.imports, h.sections, List.flatMap_cons, hbody, List.append_nil]
  rfl

private theorem exportedModules : file.exportedModules = [] := by
  rw [SourceFile.exportedModules, h.sections, List.flatMap_cons]
  refine List.flatMap_eq_nil_iff.2 fun s hs => ?_
  cases h.isSection s hs <;> rfl

private theorem mem_imported {name : String} :
    name ∈ file.given .imported ↔ ∃ i ∈ list, name ∈ i.localNames := by
  rw [SourceFile.given_imported, h.imports, List.mem_flatMap]

private theorem covers (hschemas : withSchemas → ProvidesSchemas config doc file.scope)
    (hmocks : withMocks → ProvidesModels config doc file.scope) :
    file.scope.Covers file.pieces := by
  rw [SourceFile.covers_iff, h.sections, List.forall_mem_cons]
  exact ⟨covers_imports list, fun s hs => (h.isSection s hs).covers hschemas hmocks⟩

private theorem loadsFrom (hschemas : withSchemas = false)
    (hfaker : withMocks → "faker" ∈ namesAs .imported file.pieces) :
    LoadsFrom (namesAs .imported file.pieces) file.statements := by
  rw [SourceFile.statements, h.sections]
  refine loadsFrom_flatMap (List.forall_mem_cons.2 ⟨loadsFrom_imports list, fun s hs => ?_⟩)
  exact (h.isSection s hs).loadsFrom hfaker (by simp [hschemas]) (by simp [hschemas])

private theorem loadsInOrder (hfile : LoadsFrom (namesAs .imported file.pieces) file.statements)
    (hfaker : withMocks → "faker" ∈ namesAs .imported file.pieces)
    (hzod : withSchemas → "z" ∈ namesAs .imported file.pieces) : LoadsInOrder doc file where
  earlier before s after hstatements name hname := by
    rw [hstatements] at hfile
    exact hfile.read_before hname
  within s hs name hname := by
    have hs' := hs
    rw [h.sections] at hs'
    have hload : LoadsFrom (namesAs .imported file.pieces ++ doc.enums.map (·.name))
        s.statements := by
      rcases List.mem_cons.1 hs' with rfl | hs'
      · exact loadsFrom_imports list
      · exact (h.isSection s hs').loadsFrom (fun hm => List.mem_append_left _ (hfaker hm))
          (fun hm => List.mem_append_left _ (hzod hm)) fun _ => List.subset_append_right _ _
    simpa [or_assoc, Section.pieces] using hload.readNow_subset hname

end HasBody

end Body

section Index

variable {withMocks : Bool}

private theorem enum_mem_indexFile (hzod : config.createZodSchemas) {e : EnumType}
    (he : e ∈ doc.enums) :
    Section.enum e ∈ (indexFile config doc withMocks).sections := by
  have hne : doc.enums.isEmpty = false := by simpa using List.ne_nil_of_mem he
  simp [indexFile, schemaSections, hzod, hne, he]

private theorem schema_mem_indexFile (hzod : config.createZodSchemas) {model : Model}
    (hmodel : model ∈ doc.models) : Section.schema (ModelSchema.ofModel config doc model) ∈
      (indexFile config doc withMocks).sections := by
  have hmem : Section.schema (ModelSchema.ofModel config doc model) ∈
      doc.models.map fun m => Section.schema (ModelSchema.ofModel config doc m) :=
    List.mem_map_of_mem hmodel
  simp only [indexFile, schemaSections, hzod, if_true, List.mem_append, List.mem_cons]
  exact Or.inl (Or.inr (Or.inr (Or.inr hmem)))

private theorem factory_mem_mockSections {model : Model} (hmodel : model ∈ doc.models) :
    Section.factory (ModelFactory.ofModel config doc model) ∈ mockSections config doc :=
  List.mem_cons_of_mem _ (List.mem_map_of_mem hmodel)

private theorem zod_mem_indexFile (hzod : config.createZodSchemas) :
    "z" ∈ (indexFile config doc withMocks).given .imported :=
  (indexFile_hasBody withMocks).mem_imported.2
    ⟨Import.zod, by simp [indexImports, hzod], List.mem_singleton_self _⟩

private theorem faker_mem_indexFile (hmocks : withMocks) :
    "faker" ∈ (indexFile config doc withMocks).given .imported := by
  obtain ⟨-, hlocal⟩ := PerModel.faker_import config.mockDataLocale
  exact (indexFile_hasBody withMocks).mem_imported.2
    ⟨Import.faker config.mockDataLocale, by simp [indexImports, hmocks], by simp [hlocal]⟩

private theorem indexFile_providesSchemas (hzod : config.createZodSchemas) :
    ProvidesSchemas config doc (indexFile config doc withMocks).scope where
  zod := ⟨SourceFile.mem_values _ (Or.inl (zod_mem_indexFile hzod)),
    SourceFile.mem_types _ (Or.inl (zod_mem_indexFile hzod))⟩
  enums _ he := SourceFile.mem_values _ (Or.inr
    (SourceFile.mem_given _ _ (enum_mem_indexFile hzod he) (List.mem_singleton_self _)))
  constants _ hmodel _ hname := SourceFile.mem_values _ (Or.inr
    (SourceFile.mem_given _ _ (schema_mem_indexFile hzod hmodel) hname))

private theorem indexFile_providesModels :
    ProvidesModels config doc (indexFile config doc true).scope := by
  have hfactory {model : Model} (hmodel : model ∈ doc.models) :
      Section.factory (ModelFactory.ofModel config doc model) ∈
        (indexFile config doc true).sections :=
    List.mem_append_right _ (factory_mem_mockSections hmodel)
  refine ⟨SourceFile.mem_values _ (Or.inl (faker_mem_indexFile rfl)), ?_, ?_, ?_, ?_, ?_⟩
  · intro model hmodel name hname
    exact SourceFile.mem_values _ (Or.inr (SourceFile.mem_given _ _ (hfactory hmodel) hname))
  · intro model hmodel name hname
    exact SourceFile.mem_types _ (Or.inr (SourceFile.mem_given _ _ (hfactory hmodel) hname))
  · intro hzod model hmodel
    exact (indexFile_providesSchemas hzod).constants model hmodel List.mem_cons_self
  · intro hzod htypes model hmodel
    exact SourceFile.mem_types _ (Or.inr (SourceFile.mem_given _ _
      (schema_mem_indexFile hzod hmodel) (ModelSchema.name_mem_types htypes)))
  · intro hzod _
    exact SourceFile.mem_types _ (Or.inl (zod_mem_indexFile hzod))

private theorem loadsFrom_front {known : List String} (hfaker : withMocks → "faker" ∈ known)
    {list : List Import} : LoadsFrom known ((Section.imports list
      :: ((if withMocks then seedSections config else [])
        ++ if doc.enums.isEmpty then [] else .heading "Enums" :: doc.enums.map Section.enum)).flatMap
          Section.statements) := by
  refine loadsFrom_flatMap (List.forall_mem_cons.2 ⟨loadsFrom_imports list, fun s hs => ?_⟩)
  rcases List.mem_append.1 hs with hs | hs
  · split at hs
    · rename_i hmocks
      have hseed : IsSection config doc false withMocks s := isSection_of_mem_seedSections hmocks hs
      exact hseed.loadsFrom hfaker (by simp) (by simp)
    · cases hs
  · split at hs
    · cases hs
    · rcases List.mem_cons.1 hs with rfl | hs
      · simp [Section.statements, LoadsFrom]
      · obtain ⟨e, -, rfl⟩ := List.mem_map.1 hs
        exact loadsFrom_enumStatements e

private theorem loadsFrom_indexFile :
    LoadsFrom (namesAs .imported (indexFile config doc withMocks).pieces)
      (indexFile config doc withMocks).statements := by
  have himported := SourceFile.namesAs_pieces .imported rfl (indexFile config doc withMocks)
  have hfaker (hmocks : withMocks) := himported.symm ▸ faker_mem_indexFile hmocks
  have hbody : HasBody config doc config.createZodSchemas withMocks
    (indexFile config doc withMocks) _ _ := indexFile_hasBody withMocks
  cases hzod : config.createZodSchemas with
  | false => exact hbody.loadsFrom hzod hfaker
  | true =>
    -- the schemas come after the enums, so what they read of them is there
    let front := Section.imports (indexImports config withMocks)
      :: ((if withMocks then seedSections config else [])
        ++ if doc.enums.isEmpty then [] else .heading "Enums" :: doc.enums.map Section.enum)
    let back := (Section.heading "Zod Schemas"
        :: doc.models.map fun m => .schema (ModelSchema.ofModel config doc m))
      ++ if withMocks then mockSections config doc else []
    have hsections : (indexFile config doc withMocks).sections = front ++ back := by
      simp [indexFile, schemaSections, hzod, front, back, indexImports]
    have henum {e : EnumType} (he : e ∈ doc.enums) : Section.enum e ∈ front := by
      have hne : doc.enums.isEmpty = false := by simpa using List.ne_nil_of_mem he
      simp [front, hne, he]
    have hback : ∀ s ∈ back, IsSection config doc true withMocks s := by
      intro s hs
      rcases List.mem_append.1 hs with hs | hs
      · rcases List.mem_cons.1 hs with rfl | hs
        · exact .heading _
        · obtain ⟨model, hmodel, rfl⟩ := List.mem_map.1 hs
          exact .schema rfl hmodel
      · split at hs
        · rename_i hmocks
          exact isSection_of_mem_mockSections hmocks hs
        · cases hs
    rw [SourceFile.statements, hsections, List.flatMap_append, loadsFrom_append]
    refine ⟨loadsFrom_front hfaker, loadsFrom_flatMap fun s hs => ?_⟩
    refine (hback s hs).loadsFrom (fun hmocks => List.mem_append_left _ (hfaker hmocks))
      (fun _ => List.mem_append_left _ (himported.symm ▸ zod_mem_indexFile hzod)) ?_
    intro _ name hname
    obtain ⟨e, he, rfl⟩ := List.mem_map.1 hname
    exact List.mem_append_right _
      (mem_namesAs_sections .constant rfl (henum he) (List.mem_singleton.2 rfl))

end Index

section Mocks

private theorem mem_indexNames {name : String} : name ∈ indexNames config doc ↔
    config.createZodSchemas ∧ ∃ model ∈ doc.models,
      (config.createModelTypes ∧ name = model.name) ∨ name = model.name ++ "Schema" := by
  unfold indexNames
  cases config.createZodSchemas <;> cases config.createModelTypes <;> simp [List.mem_flatMap]

private theorem mem_imported_mocksFile {name : String} :
    name ∈ (mocksFile config doc).given .imported ↔
      (config.createZodSchemas ∧ config.createModelTypes = false ∧ name = "z") ∨
        name = "faker" ∨ name ∈ indexNames config doc := by
  obtain ⟨-, hlocal⟩ := PerModel.faker_import config.mockDataLocale
  have hnames : (if (indexNames config doc).isEmpty then []
      else [Import.plain (indexNames config doc) "./index"]).flatMap Import.localNames =
        indexNames config doc := by
    cases indexNames config doc <;> simp
  have himported : (mocksFile config doc).given .imported =
      (if config.createZodSchemas && !config.createModelTypes then ["z"] else [])
        ++ ["faker"] ++ indexNames config doc := by
    rw [SourceFile.given_imported, mocksFile_hasBody.imports, mocksImports, List.flatMap_append,
      List.flatMap_append, hnames, List.flatMap_singleton, hlocal]
    split <;> rfl
  rw [himported]
  cases config.createZodSchemas <;> cases config.createModelTypes <;> simp

private theorem mocksFile_providesModels :
    ProvidesModels config doc (mocksFile config doc).scope := by
  have hfactory {model : Model} (hmodel : model ∈ doc.models) :
      Section.factory (ModelFactory.ofModel config doc model) ∈ (mocksFile config doc).sections :=
    List.mem_append_right _ (factory_mem_mockSections hmodel)
  refine ⟨SourceFile.mem_values _ (Or.inl (mem_imported_mocksFile.2 (Or.inr (Or.inl rfl)))),
    ?_, ?_, ?_, ?_, ?_⟩
  · intro model hmodel name hname
    exact SourceFile.mem_values _ (Or.inr (SourceFile.mem_given _ _ (hfactory hmodel) hname))
  · intro model hmodel name hname
    exact SourceFile.mem_types _ (Or.inr (SourceFile.mem_given _ _ (hfactory hmodel) hname))
  · intro hzod model hmodel
    exact SourceFile.mem_values _ (Or.inl (mem_imported_mocksFile.2 (Or.inr (Or.inr
      (mem_indexNames.2 ⟨hzod, model, hmodel, Or.inr rfl⟩)))))
  · intro hzod htypes model hmodel
    exact SourceFile.mem_types _ (Or.inl (mem_imported_mocksFile.2 (Or.inr (Or.inr
      (mem_indexNames.2 ⟨hzod, model, hmodel, Or.inl ⟨htypes, rfl⟩⟩)))))
  · intro hzod htypes
    exact SourceFile.mem_types _ (Or.inl (mem_imported_mocksFile.2 (Or.inl ⟨hzod, htypes, rfl⟩)))

private theorem indexNames_exported {withMocks : Bool} {name : String}
    (h : name ∈ indexNames config doc) :
    name ∈ (indexFile config doc withMocks).exports := by
  obtain ⟨hzod, model, hmodel, ⟨htypes, rfl⟩ | rfl⟩ := mem_indexNames.1 h
  · exact SourceFile.mem_exports _ (Or.inr (Or.inl (SourceFile.mem_given _ _
      (schema_mem_indexFile hzod hmodel) (ModelSchema.name_mem_types htypes))))
  · exact SourceFile.mem_exports _ (Or.inl (SourceFile.mem_given _ _
      (schema_mem_indexFile hzod hmodel) List.mem_cons_self))

end Mocks

section Files

private theorem indexFile_closed {all : List SourceFile} (withMocks : Bool) :
    (indexFile config doc withMocks).ClosedIn all := by
  have hbody : HasBody config doc config.createZodSchemas withMocks
    (indexFile config doc withMocks) _ _ := indexFile_hasBody withMocks
  obtain ⟨hmodule, -⟩ := PerModel.faker_import config.mockDataLocale
  have himport {property : Import → Prop} (hzod : property Import.zod)
      (hfaker : property (Import.faker config.mockDataLocale)) :
      ∀ i ∈ indexImports config withMocks, property i := by
    unfold indexImports
    cases config.createZodSchemas <;> cases withMocks <;> simp [hzod, hfaker]
  refine ⟨?_, ?_, ?_, ?_⟩
  · rw [hbody.imports]
    exact himport (by decide) (PerModel.faker_names_ne_nil _)
  · rw [hbody.imports]
    refine himport (fun hrelative => absurd hrelative (by decide)) fun hrelative => ?_
    rw [hmodule] at hrelative
    exact absurd hrelative (by decide)
  · simp [hbody.exportedModules]
  · refine hbody.covers indexFile_providesSchemas ?_
    rintro rfl
    exact indexFile_providesModels

private theorem modulePath_index : modulePath "mocks.ts" "./index" = "index.ts" := by
  decide

private theorem mocksFile_closed {withMocks : Bool} {all : List SourceFile}
    (hindex : indexFile config doc withMocks ∈ all) : (mocksFile config doc).ClosedIn all := by
  obtain ⟨hmodule, -⟩ := PerModel.faker_import config.mockDataLocale
  have himport {property : Import → Prop} (hzod : property Import.zod)
      (hfaker : property (Import.faker config.mockDataLocale))
      (hnames : indexNames config doc ≠ [] →
        property (Import.plain (indexNames config doc) "./index")) :
      ∀ i ∈ mocksImports config doc, property i := by
    intro i hi
    rcases List.mem_append.1 hi with hi | hi
    · rcases List.mem_append.1 hi with hi | hi
      · split at hi
        · exact List.mem_singleton.1 hi ▸ hzod
        · cases hi
      · exact List.mem_singleton.1 hi ▸ hfaker
    · split at hi
      · cases hi
      · rename_i hne
        exact List.mem_singleton.1 hi ▸ hnames (by simpa using hne)
  refine ⟨?_, ?_, ?_, ?_⟩
  · rw [mocksFile_hasBody.imports]
    exact himport (by decide) (PerModel.faker_names_ne_nil _) (by simp [Import.plain])
  · rw [mocksFile_hasBody.imports]
    refine himport (fun hrelative => absurd hrelative (by decide)) (fun hrelative => ?_) ?_
    · rw [hmodule] at hrelative
      exact absurd hrelative (by decide)
    · intro _ _ name hname
      obtain ⟨exported, hexported, rfl⟩ := List.mem_map.1 hname
      exact ⟨indexFile config doc withMocks, hindex, modulePath_index.symm,
        indexNames_exported hexported⟩
  · simp [mocksFile_hasBody.exportedModules]
  · exact mocksFile_hasBody.covers (by simp) fun _ => mocksFile_providesModels

private theorem indexFile_loadsInOrder (withMocks : Bool) :
    LoadsInOrder doc (indexFile config doc withMocks) := by
  have hbody : HasBody config doc config.createZodSchemas withMocks
    (indexFile config doc withMocks) _ _ := indexFile_hasBody withMocks
  have himported := SourceFile.namesAs_pieces .imported rfl (indexFile config doc withMocks)
  exact hbody.loadsInOrder loadsFrom_indexFile
    (fun hmocks => himported.symm ▸ faker_mem_indexFile hmocks)
    fun hzod => himported.symm ▸ zod_mem_indexFile hzod

private theorem mocksFile_loadsInOrder : LoadsInOrder doc (mocksFile config doc) := by
  have hbody : HasBody config doc false true (mocksFile config doc) _ _ := mocksFile_hasBody
  have hfaker : "faker" ∈ namesAs .imported (mocksFile config doc).pieces := by
    rw [SourceFile.namesAs_pieces .imported rfl]
    exact mem_imported_mocksFile.2 (Or.inr (Or.inl rfl))
  exact hbody.loadsInOrder (hbody.loadsFrom rfl fun _ => hfaker) (fun _ => hfaker) (by simp)

end Files

/-- The contents of the files of the layout are the text of their statements. They refer to nothing
but what they declare, import from packages, or import from a file of the layout that exports it; and
each statement finds what it reads at once among the imports and the constants of earlier statements,
where only enums are read at once across models. -/
theorem files_load (config : GeneratorConfig) (doc : Document) :
    ∀ file ∈ files config doc,
      file.contents = file.text ∧ file.ClosedIn (files config doc) ∧ LoadsInOrder doc file := by
  intro file hfile
  refine ⟨file.contents_eq, ?_⟩
  unfold files at hfile ⊢
  dsimp only at hfile ⊢
  rcases List.mem_cons.1 hfile with rfl | hmocks
  · exact ⟨indexFile_closed _, indexFile_loadsInOrder _⟩
  · split at hmocks
    · rw [List.mem_singleton] at hmocks
      subst hmocks
      exact ⟨mocksFile_closed List.mem_cons_self, mocksFile_loadsInOrder⟩
    · cases hmocks

/-- A model with a field whose documentation picks a value of an enum. -/
def roleDocument : Document where
  models := [Model.bare "User"
    [{ Field.bare "role" .enum "Role" with documentation := some "@mock Role.ADMIN" }]]
  enums := [⟨"Role", [⟨"ADMIN", none⟩], none, none⟩]
  types := []

theorem files_load_roles :
    ∃ file ∈ files { GeneratorConfig.standard with mockOutputSeparate := true } roleDocument,
      file.path = "mocks.ts" ∧ file.contents = file.text ∧
        file.ClosedIn
          (files { GeneratorConfig.standard with mockOutputSeparate := true } roleDocument) ∧
        LoadsInOrder roleDocument file := by
  have hfile : mocksFile { GeneratorConfig.standard with mockOutputSeparate := true } roleDocument ∈
      files { GeneratorConfig.standard with mockOutputSeparate := true } roleDocument :=
    List.mem_cons_of_mem _ List.mem_cons_self
  exact ⟨_, hfile, rfl, files_load _ roleDocument _ hfile⟩

/-- A valid document, named by identifiers, of which the file of factories mentions an enum that is
neither declared there nor imported: the mention is supplied by the documentation of a field. -/
theorem supplied_enum_not_imported :
    roleDocument.validate = .ok () ∧
      (∀ model ∈ roleDocument.models, Text.isIdentifier model.name = true) ∧
      ∃ file ∈ files { GeneratorConfig.standard with mockOutputSeparate := true } roleDocument,
        file.path = "mocks.ts" ∧ file.contents = file.text ∧
          "Role" ∈ roleDocument.enums.map (·.name) ∧
          Piece.name .supplied "Role" ∈ file.pieces ∧ "Role" ∉ file.scope.values := by
  refine ⟨by decide +kernel, by decide +kernel,
    mocksFile { GeneratorConfig.standard with mockOutputSeparate := true } roleDocument,
    List.mem_cons_of_mem _ List.mem_cons_self, rfl, SourceFile.contents_eq _, ?_, ?_, ?_⟩ <;>
    decide +kernel

end Bundle

end SchemaMocks.TypeScript
