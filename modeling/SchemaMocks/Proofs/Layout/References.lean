import SchemaMocks.Proofs.Layout.Dependencies
import SchemaMocks.Proofs.Layout.Modules

set_option autoImplicit false
set_option relaxedAutoImplicit false

/-!
References between the files of the layout with one file per model. Each relative import leads to a
file of the layout that exports what is imported, the index exports files of the layout only, and
each file imports or declares what its code refers to. Code that the documentation of a field
supplies stands in a factory as it is written; what it refers to is not imported for it.
-/

namespace SchemaMocks.TypeScript

def Section.exportedModules : Section → List String
  | reexports modules => modules
  | _ => []

namespace SourceFile

def exportedModules (file : SourceFile) : List String :=
  file.sections.flatMap Section.exportedModules

def exports (file : SourceFile) : List String :=
  namesAs .constant file.pieces ++ namesAs .type file.pieces ++ namesAs .reexported file.pieces

theorem mem_exports (file : SourceFile) {name : String} (h : name ∈ file.given .constant ∨
    name ∈ file.given .type ∨ name ∈ file.given .reexported) : name ∈ file.exports := by
  rw [← file.namesAs_pieces .constant rfl, ← file.namesAs_pieces .type rfl,
    ← file.namesAs_pieces .reexported rfl] at h
  simpa [exports, or_assoc] using h

def Finds (files : List SourceFile) (file : SourceFile) (module name : String) : Prop :=
  ∃ target ∈ files, target.path = modulePath file.path module ∧ name ∈ target.exports

/-- Whether a file refers to nothing but what it declares, imports from packages, and imports or
exports from some files that have it. -/
structure ClosedIn (files : List SourceFile) (file : SourceFile) : Prop where
  named : ∀ i ∈ file.imports, i.names ≠ []
  imports : ∀ i ∈ file.imports, isRelative i.module → ∀ name ∈ i.names,
    Finds files file i.module name.exported
  exported : ∀ module ∈ file.exportedModules,
    ∃ target ∈ files, target.path = modulePath file.path module
  covers : file.scope.Covers file.pieces

end SourceFile

namespace PerModel

variable {config : GeneratorConfig} {doc : Document} {model : Model}

section Members

private theorem schemaFile_mem_files (hzod : config.createZodSchemas)
    (hmodel : model ∈ doc.models) :
    schemaFile config doc model ∈ files config doc := by
  have hfile : schemaFile config doc model ∈ modelFiles config doc model := by
    simp [modelFiles, hzod]
  simp only [files, List.mem_append, List.mem_flatMap]
  exact Or.inl (Or.inr ⟨model, hmodel, hfile⟩)

private theorem mockFile_mem_files (hmocks : config.createMockFactories)
    (hmodel : model ∈ doc.models) :
    mockFile config doc model ∈ files config doc := by
  have hfile : mockFile config doc model ∈ modelFiles config doc model := by
    simp [modelFiles, hmocks]
  simp only [files, List.mem_append, List.mem_flatMap]
  exact Or.inl (Or.inr ⟨model, hmodel, hfile⟩)

def enumFile (doc : Document) : SourceFile :=
  ⟨"schemas/enums.ts", doc.enums.map Section.enum⟩

def fakerFile (config : GeneratorConfig) : SourceFile :=
  ⟨"mocks/faker.ts",
    [.imports [Import.faker config.mockDataLocale]] ++ seedSections config ++ [.exportFaker]⟩

private theorem enumFile_mem_files (hzod : config.createZodSchemas) (henums : doc.enums ≠ []) :
    enumFile doc ∈ files config doc := by
  have hfile : enumFile doc ∈ enumFiles config doc := by
    simp [enumFiles, enumFile, hzod, henums]
  simp only [files, List.mem_append]
  exact Or.inl (Or.inl (Or.inl hfile))

private theorem fakerFile_mem_files (hmocks : config.createMockFactories) :
    fakerFile config ∈ files config doc := by
  have hfile : fakerFile config ∈ fakerFiles config := by
    simp [fakerFiles, fakerFile, hmocks]
  simp only [files, List.mem_append]
  exact Or.inl (Or.inl (Or.inr hfile))

theorem exists_enum_of_isSome {name : String} (h : (doc.enum? name).isSome) :
    ∃ e ∈ doc.enums, e.name = name := by
  obtain ⟨e, he⟩ := Option.isSome_iff_exists.1 h
  exact ⟨e, List.mem_of_find?_eq_some he, by simpa using List.find?_some he⟩

end Members

section Schemas

private theorem mem_imported_schemaFile {name : String} :
    name ∈ (schemaFile config doc model).given .imported ↔
      name = "z" ∨ name ∈ enumNames doc model ∨
        ∃ related ∈ model.relatedNames doc, name = related ++ "Schema" := by
  have henums : name ∈ (if (enumNames doc model).isEmpty then []
      else [Import.plain (enumNames doc model) "./enums"]).flatMap Import.localNames ↔
      name ∈ enumNames doc model := by
    cases enumNames doc model <;> simp [Import.localNames, Import.plain]
  simp only [SourceFile.given, schemaFile, List.flatMap_cons, List.flatMap_nil, Section.given,
    declaredAs, List.append_nil, schemaImports, List.flatMap_append, List.mem_append, henums]
  simp [Import.zod, Import.plain, Import.localNames, List.mem_flatMap, or_assoc, eq_comm]

private theorem given_schemaFile (role : NameRole) (hrole : role ≠ .imported) :
    (schemaFile config doc model).given role =
      declaredAs (ModelSchema.ofModel config doc model).constants
        (ModelSchema.ofModel config doc model).types role := by
  cases role <;> simp [SourceFile.given, schemaFile, Section.given, declaredAs] at hrole ⊢

private theorem schemaFile_needs :
    (schemaFile config doc model).scope.SchemaNeeds config doc model where
  zod := SourceFile.mem_values _ (Or.inl (mem_imported_schemaFile.2 (Or.inl rfl)))
  zodType := SourceFile.mem_types _ (Or.inl (mem_imported_schemaFile.2 (Or.inl rfl)))
  own := by
    intro name hname
    refine SourceFile.mem_values _ (Or.inr ?_)
    rwa [given_schemaFile .constant (by decide)]
  enums field hfield hkind hknown := SourceFile.mem_values _ (Or.inl (mem_imported_schemaFile.2
    (Or.inr (Or.inl (mem_enumNames.2 ⟨field, hfield, hkind, hknown, rfl⟩)))))
  related field hfield target htarget := by
    refine SourceFile.mem_values _ ?_
    by_cases hself : target.name = model.name
    · rw [given_schemaFile .constant (by decide), hself]
      exact Or.inr List.mem_cons_self
    · exact Or.inl (mem_imported_schemaFile.2 (Or.inr (Or.inr ⟨target.name,
        Model.mem_relatedNames.2 ⟨⟨field, hfield, target, htarget, rfl⟩, hself⟩, rfl⟩)))

end Schemas

section Mocks

private theorem mem_imported_mockFile {name : String} :
    name ∈ (mockFile config doc model).given .imported ↔
      name = "faker" ∨ (config.createZodSchemas ∧ config.createModelTypes = false ∧ name = "z") ∨
        ∃ module, MockImport config doc model module name := by
  simp only [SourceFile.given, mockFile, List.flatMap_cons, List.flatMap_nil, Section.given,
    declaredAs, List.append_nil, mockImports, List.flatMap_append, List.mem_append,
    mem_localNames_groupImports, mem_mockImportedNames, or_assoc]
  cases config.createZodSchemas <;> cases config.createModelTypes <;>
    simp [Import.zod, Import.plain, Import.localNames]

private theorem given_mockFile (role : NameRole) (hrole : role ≠ .imported) :
    (mockFile config doc model).given role =
      declaredAs (ModelFactory.ofModel config doc model).constants
        (ModelFactory.ofModel config doc model).types role := by
  cases role <;> simp [SourceFile.given, mockFile, Section.given, declaredAs] at hrole ⊢

private theorem mockFile_covers_baseType {name : String} (hzod : config.createZodSchemas)
    (hname : ∃ module, MockImport config doc model module
      (if config.createModelTypes then name else name ++ "Schema")) :
    (mockFile config doc model).scope.Covers (baseType config name).pieces := by
  have himported := mem_imported_mockFile.2 (Or.inr (Or.inr hname))
  unfold baseType
  cases htypes : config.createModelTypes with
  | true =>
    rw [htypes] at himported
    have htype := SourceFile.mem_types _ (Or.inl himported)
    simpa [TypeRef.pieces, Scope.Provides] using htype
  | false =>
    rw [htypes] at himported
    have hschema := SourceFile.mem_values _ (Or.inl himported)
    have hz := SourceFile.mem_types (mockFile config doc model)
      (Or.inl (mem_imported_mockFile.2 (Or.inr (Or.inl ⟨hzod, htypes, rfl⟩))))
    simpa [TypeRef.pieces, Scope.Provides, hz] using hschema

private theorem mockFile_covers_ownType (hzod : config.createZodSchemas) :
    (mockFile config doc model).scope.Covers (baseType config model.name).pieces := by
  refine mockFile_covers_baseType hzod ⟨schemaModule model.name, ?_⟩
  split
  · rename_i htypes
    exact .type hzod htypes
  · exact .schema hzod

private theorem mem_types_mockFile (hmock : hasMockType config model) :
    model.name ++ "Mock" ∈ (mockFile config doc model).scope.types := by
  refine SourceFile.mem_types _ (Or.inr ?_)
  rw [given_mockFile .type (by decide)]
  exact ModelFactory.mockType_mem_types hmock

private theorem mockFile_needs :
    (mockFile config doc model).scope.FactoryNeeds config doc model where
  faker := SourceFile.mem_values _ (Or.inl (mem_imported_mockFile.2 (Or.inl rfl)))
  own := by
    refine SourceFile.mem_values _ (Or.inr ?_)
    rw [given_mockFile .constant (by decide)]
    exact List.mem_cons_self
  schema hzod := SourceFile.mem_values _ (Or.inl (mem_imported_mockFile.2
    (Or.inr (Or.inr ⟨_, .schema hzod⟩))))
  base := mockFile_covers_ownType
  mock := mem_types_mockFile
  referred hmock field hfield target htarget := by
    have hzod : config.createZodSchemas = true := (Bool.and_eq_true_iff.1 hmock).1
    have hentry (hother : target.name ≠ model.name) :=
      MockDependencies.mem_targetsOf.2 ⟨hfield, htarget, hother⟩
    unfold referredType
    split <;> rename_i htargetMock
    · have hmem : target.name ++ "Mock" ∈ (mockFile config doc model).scope.types := by
        by_cases hself : target.name = model.name
        · exact hself ▸ mem_types_mockFile hmock
        · exact SourceFile.mem_types _ (Or.inl (mem_imported_mockFile.2
            (Or.inr (Or.inr ⟨_, .mockType hmock (hentry hself) htargetMock⟩))))
      simpa [TypeRef.pieces, Scope.Provides] using hmem
    · by_cases hself : target.name = model.name
      · exact hself ▸ mockFile_covers_ownType hzod
      · exact mockFile_covers_baseType hzod
          ⟨_, .targetType hmock (hentry hself) (by simpa using htargetMock)⟩
  called hcreate field hfield target htarget := by
    refine SourceFile.mem_values _ ?_
    by_cases hself : target.name = model.name
    · rw [given_mockFile .constant (by decide)]
      exact Or.inr (ModelFactory.calledFactory_mem_constants hself)
    · exact Or.inl (mem_imported_mockFile.2 (Or.inr (Or.inr
        ⟨_, .factory hcreate (MockDependencies.mem_targetsOf.2 ⟨hfield, htarget, hself⟩)⟩)))

end Mocks

section Resolution

private theorem isFolder_schemas : IsFolder "schemas" := by
  unfold IsFolder
  decide

private theorem isFolder_mocks : IsFolder "mocks" := by
  unfold IsFolder
  decide

private theorem path_mockFile :
    (mockFile config doc model).path = "mocks" ++ "/" ++ (model.stem ++ ".mock") ++ ".ts" := by
  simp [mockFile, ← String.toList_inj]

private theorem slash_notMem_mock {stem : String} (h : '/' ∉ stem.toList) :
    '/' ∉ (stem ++ ".mock").toList := by
  simp [h]

variable (stem : String) (hstem : '/' ∉ stem.toList)

include hstem

private theorem modulePath_from_schemas (hfile : '/' ∉ model.stem.toList) :
    modulePath (schemaFile config doc model).path ("./" ++ stem) = schemaPath stem := by
  simpa [schemaFile, schemaPath] using modulePath_sibling isFolder_schemas hfile hstem

private theorem modulePath_mocks_to_schemas (hfile : '/' ∉ model.stem.toList) :
    modulePath (mockFile config doc model).path ("../schemas/" ++ stem) = schemaPath stem := by
  rw [path_mockFile]
  simpa [schemaPath] using
    modulePath_cousin isFolder_mocks (slash_notMem_mock hfile) isFolder_schemas hstem

private theorem modulePath_from_mocks (hfile : '/' ∉ model.stem.toList) :
    modulePath (mockFile config doc model).path ("./" ++ stem) = "mocks/" ++ stem ++ ".ts" := by
  rw [path_mockFile]
  simpa using modulePath_sibling isFolder_mocks (slash_notMem_mock hfile) hstem

private theorem modulePath_between_mocks (hfile : '/' ∉ model.stem.toList) :
    modulePath (mockFile config doc model).path ("./" ++ stem ++ ".mock") = mockPath stem := by
  have hpath : modulePath (mockFile config doc model).path ("./" ++ (stem ++ ".mock")) =
      "mocks/" ++ (stem ++ ".mock") ++ ".ts" :=
    modulePath_from_mocks _ (slash_notMem_mock hstem) hfile
  simpa [mockPath, String.append_assoc] using hpath

private theorem modulePath_index_to_schemas :
    modulePath "index.ts" ("./schemas/" ++ stem) = schemaPath stem := by
  simpa [schemaPath] using modulePath_below isFolder_schemas hstem

private theorem modulePath_index_to_mocks :
    modulePath "index.ts" ("./mocks/" ++ stem ++ ".mock") = mockPath stem := by
  have hpath := modulePath_below isFolder_mocks (slash_notMem_mock hstem)
  simpa [mockPath, String.append_assoc] using hpath

end Resolution

section Found

private theorem finds_schema (hzod : config.createZodSchemas) (hmodel : model ∈ doc.models)
    {file : SourceFile} {module : String}
    (hpath : modulePath file.path module = schemaPath model.stem) {name : String}
    (hname : name ∈ (ModelSchema.ofModel config doc model).constants ∨
      name ∈ (ModelSchema.ofModel config doc model).types) :
    file.Finds (files config doc) module name := by
  refine ⟨schemaFile config doc model, schemaFile_mem_files hzod hmodel, hpath.symm, ?_⟩
  refine SourceFile.mem_exports _ ?_
  rw [given_schemaFile .constant (by decide), given_schemaFile .type (by decide)]
  exact hname.imp id Or.inl

private theorem finds_mock (hmocks : config.createMockFactories) (hmodel : model ∈ doc.models)
    {file : SourceFile} {module : String}
    (hpath : modulePath file.path module = mockPath model.stem) {name : String}
    (hname : name ∈ (ModelFactory.ofModel config doc model).constants ∨
      name ∈ (ModelFactory.ofModel config doc model).types) :
    file.Finds (files config doc) module name := by
  refine ⟨mockFile config doc model, mockFile_mem_files hmocks hmodel, hpath.symm, ?_⟩
  refine SourceFile.mem_exports _ ?_
  rw [given_mockFile .constant (by decide), given_mockFile .type (by decide)]
  exact hname.imp id Or.inl

private theorem finds_enum (hzod : config.createZodSchemas) {file : SourceFile} {module : String}
    (hpath : modulePath file.path module = "schemas/enums.ts") {name : String}
    (hname : name ∈ enumNames doc model) : file.Finds (files config doc) module name := by
  obtain ⟨field, -, -, hknown, rfl⟩ := mem_enumNames.1 hname
  obtain ⟨e, he, hname⟩ := exists_enum_of_isSome hknown
  refine ⟨enumFile doc, enumFile_mem_files hzod (List.ne_nil_of_mem he), hpath.symm, ?_⟩
  refine SourceFile.mem_exports _ (Or.inl ?_)
  rw [SourceFile.given, enumFile, List.flatMap_map]
  exact List.mem_flatMap.2 ⟨e, he, List.mem_singleton.2 hname.symm⟩

private theorem finds_faker (hmocks : config.createMockFactories) {file : SourceFile}
    {module : String}
    (hpath : modulePath file.path module = "mocks/faker.ts") :
    file.Finds (files config doc) module "faker" := by
  refine ⟨fakerFile config, fakerFile_mem_files hmocks, hpath.symm, ?_⟩
  refine SourceFile.mem_exports _ (Or.inr (Or.inr ?_))
  simp [SourceFile.given, fakerFile, Section.given]

end Found

section Closed

variable (hnames : ∀ model ∈ doc.models, Text.isIdentifier model.name = true)

include hnames

private theorem slash_notMem_stem (hmodel : model ∈ doc.models) : '/' ∉ model.stem.toList :=
  Text.slash_notMem_lowered (hnames model hmodel)

private theorem schemaFile_closed (hzod : config.createZodSchemas) (hmodel : model ∈ doc.models) :
    (schemaFile config doc model).ClosedIn (files config doc) := by
  have hstem := slash_notMem_stem hnames hmodel
  have himports : (schemaFile config doc model).imports = schemaImports doc model := by
    simp [SourceFile.imports, Section.importList, schemaFile]
  refine ⟨?_, ?_, ?_, ?_⟩
  · intro i hi
    rw [himports, mem_schemaImports] at hi
    rcases hi with rfl | ⟨henums, rfl⟩ | ⟨related, -, rfl⟩
    · decide
    · simpa [Import.plain] using henums
    · exact List.cons_ne_nil _ _
  · intro i hi hrelative name hname
    rw [himports, mem_schemaImports] at hi
    rcases hi with rfl | ⟨-, rfl⟩ | ⟨related, hrelated, rfl⟩
    · exact absurd hrelative (by decide)
    · obtain ⟨exported, hexported, rfl⟩ := List.mem_map.1 hname
      have hpath : modulePath (schemaFile config doc model).path ("./" ++ "enums") =
          schemaPath "enums" := modulePath_from_schemas _ (by decide) hstem
      exact finds_enum hzod (by simpa [schemaPath, Import.plain] using hpath) hexported
    · obtain ⟨⟨field, -, target, htarget, rfl⟩, -⟩ := Model.mem_relatedNames.1 hrelated
      have htarget := (Document.mem_of_model?_eq_some htarget).1
      cases List.mem_singleton.1 hname
      exact finds_schema hzod htarget
        (modulePath_from_schemas _ (slash_notMem_stem hnames htarget) hstem)
        (Or.inl List.mem_cons_self)
  · simp [SourceFile.exportedModules, Section.exportedModules, schemaFile]
  · rw [SourceFile.covers_iff]
    simp only [schemaFile, List.forall_mem_cons]
    exact ⟨covers_imports _, schemaFile_needs.covers, List.forall_mem_nil _⟩

private theorem mockFile_finds (hmocks : config.createMockFactories) (hmodel : model ∈ doc.models)
    {module name : String} (h : MockImport config doc model module name) :
    (mockFile config doc model).Finds (files config doc) module name := by
  have hstem := slash_notMem_stem hnames hmodel
  have hschema {target : Model} (htarget : target ∈ doc.models) :
      modulePath (mockFile config doc model).path (schemaModule target.name) =
        schemaPath target.stem :=
    modulePath_mocks_to_schemas _ (slash_notMem_stem hnames htarget) hstem
  have hmock {target : Model} (htarget : target ∈ doc.models) :
      modulePath (mockFile config doc model).path (mockModule target.name) =
        mockPath target.stem :=
    modulePath_between_mocks _ (slash_notMem_stem hnames htarget) hstem
  have hmem {field : Field} {target : Model}
      (htarget : (field, target) ∈ MockDependencies.targetsOf doc model) : target ∈ doc.models :=
    (Document.mem_of_model?_eq_some (MockDependencies.mem_targetsOf.1 htarget).2.1).1
  cases h with
  | schema hzod => exact finds_schema hzod hmodel (hschema hmodel) (Or.inl List.mem_cons_self)
  | type hzod htypes =>
    exact finds_schema hzod hmodel (hschema hmodel) (Or.inr (ModelSchema.name_mem_types htypes))
  | factory hcreate htarget =>
    exact finds_mock hmocks (hmem htarget) (hmock (hmem htarget))
      (Or.inl (ModelFactory.calledFactory_mem_constants rfl))
  | mockType hmodelMock htarget htargetMock =>
    exact finds_mock hmocks (hmem htarget) (hmock (hmem htarget))
      (Or.inr (ModelFactory.mockType_mem_types htargetMock))
  | targetType hmodelMock htarget htargetMock =>
    have hzod : config.createZodSchemas = true := (Bool.and_eq_true_iff.1 hmodelMock).1
    refine finds_schema hzod (hmem htarget) (hschema (hmem htarget)) ?_
    cases htypes : config.createModelTypes with
    | true => exact Or.inr (ModelSchema.name_mem_types htypes)
    | false => exact Or.inl List.mem_cons_self

private theorem mockFile_closed (hmocks : config.createMockFactories)
    (hmodel : model ∈ doc.models) :
    (mockFile config doc model).ClosedIn (files config doc) := by
  have himports : (mockFile config doc model).imports = mockImports config doc model := by
    simp [SourceFile.imports, Section.importList, mockFile]
  refine ⟨?_, ?_, ?_, ?_⟩
  · intro i hi
    rw [himports, mem_mockImports] at hi
    rcases hi with rfl | ⟨-, -, rfl⟩ | hi
    · decide
    · decide
    · exact groupImports_names_ne_nil hi
  · intro i hi hrelative name hname
    rw [himports, mem_mockImports] at hi
    rcases hi with rfl | ⟨-, -, rfl⟩ | hi
    · cases List.mem_singleton.1 hname
      have hpath : modulePath (mockFile config doc model).path ("./" ++ "faker") =
          "mocks/" ++ "faker" ++ ".ts" :=
        modulePath_from_mocks _ (by decide) (slash_notMem_stem hnames hmodel)
      exact finds_faker hmocks (by simpa [Import.plain] using hpath)
    · exact absurd hrelative (by decide)
    · obtain ⟨hentry, -⟩ := mem_groupImports hi hname
      exact mockFile_finds hnames hmocks hmodel (mem_mockImportedNames.1 hentry)
  · simp [SourceFile.exportedModules, Section.exportedModules, mockFile]
  · rw [SourceFile.covers_iff]
    simp only [mockFile, List.forall_mem_cons]
    exact ⟨covers_imports _, mockFile_needs.covers, List.forall_mem_nil _⟩

private theorem indexFile_closed {file : SourceFile} (hfile : file ∈ indexFiles config doc) :
    file.ClosedIn (files config doc) := by
  unfold indexFiles at hfile
  dsimp only at hfile
  split at hfile
  · rw [List.mem_singleton] at hfile
    subst hfile
    refine ⟨by simp [SourceFile.imports, Section.importList], by simp [SourceFile.imports, Section.importList], ?_, ?_⟩
    · intro module hmodule
      have hmodule : module ∈ exportedModules config doc := by
        simpa [SourceFile.exportedModules, Section.exportedModules] using hmodule
      rcases List.mem_append.1 hmodule with henums | hmodels
      · split at henums
        · rename_i h
          rw [List.mem_singleton] at henums
          subst henums
          obtain ⟨hzod, henums⟩ := Bool.and_eq_true_iff.1 h
          refine ⟨enumFile doc, enumFile_mem_files hzod (by simpa using henums), ?_⟩
          have hpath : modulePath "index.ts" ("./schemas/" ++ "enums") = schemaPath "enums" :=
            modulePath_index_to_schemas _ (by decide)
          simpa [schemaPath, enumFile, eq_comm] using hpath
        · cases henums
      · obtain ⟨model, hmodel, hmodule⟩ := List.mem_flatMap.1 hmodels
        have hstem := slash_notMem_stem hnames hmodel
        rcases List.mem_append.1 hmodule with hmodule | hmodule
        · split at hmodule
          · rename_i hzod
            rw [List.mem_singleton] at hmodule
            subst hmodule
            exact ⟨schemaFile config doc model, schemaFile_mem_files hzod hmodel,
              (modulePath_index_to_schemas _ hstem).symm⟩
          · cases hmodule
        · split at hmodule
          · rename_i hmocks
            rw [List.mem_singleton] at hmodule
            subst hmodule
            exact ⟨mockFile config doc model, mockFile_mem_files hmocks hmodel,
              (modulePath_index_to_mocks _ hstem).symm⟩
          · cases hmodule
    · simp [SourceFile.covers_iff, covers_reexports]
  · cases hfile

end Closed

section Closed

private theorem enumFile_closed {all : List SourceFile} : (enumFile doc).ClosedIn all := by
  have hsections : ∀ s ∈ (enumFile doc).sections, ∃ e ∈ doc.enums, Section.enum e = s := by
    simp [enumFile]
  refine ⟨?_, ?_, ?_, ?_⟩
  · simp [SourceFile.imports, Section.importList, enumFile]
  · simp [SourceFile.imports, Section.importList, enumFile]
  · simp [SourceFile.exportedModules, Section.exportedModules, enumFile]
  · rw [SourceFile.covers_iff]
    intro s hs
    obtain ⟨e, he, rfl⟩ := hsections s hs
    refine covers_enum (SourceFile.mem_values _ (Or.inr ?_))
    rw [SourceFile.given, enumFile, List.flatMap_map]
    exact List.mem_flatMap.2 ⟨e, he, List.mem_singleton_self _⟩

theorem faker_import (locale : String) :
    (Import.faker locale).module = "@faker-js/faker" ∧
      (Import.faker locale).localNames = ["faker"] := by
  unfold Import.faker
  dsimp only
  split <;> exact ⟨rfl, rfl⟩

theorem faker_names_ne_nil (locale : String) : (Import.faker locale).names ≠ [] := by
  intro hnil
  have hlocal := (faker_import locale).2
  rw [Import.localNames, hnil] at hlocal
  cases hlocal

private theorem fakerFile_closed {all : List SourceFile} : (fakerFile config).ClosedIn all := by
  obtain ⟨hmodule, hlocal⟩ := faker_import config.mockDataLocale
  have himports : (fakerFile config).imports = [Import.faker config.mockDataLocale] := by
    unfold SourceFile.imports fakerFile seedSections
    split <;> rfl
  have hfaker : "faker" ∈ (fakerFile config).scope.values := by
    refine SourceFile.mem_values _ (Or.inl ?_)
    simp [SourceFile.given, fakerFile, Section.given, hlocal]
  refine ⟨?_, ?_, ?_, ?_⟩
  · rw [himports, List.forall_mem_singleton]
    exact faker_names_ne_nil _
  · rw [himports, List.forall_mem_singleton, hmodule]
    exact fun hrelative => absurd hrelative (by decide)
  · unfold SourceFile.exportedModules fakerFile seedSections
    split <;> simp [Section.exportedModules]
  · rw [SourceFile.covers_iff]
    intro s hs
    rcases List.mem_append.1 hs with hs | hs
    · rcases List.mem_append.1 hs with hs | hs
      · cases List.mem_singleton.1 hs
        exact covers_imports _
      · unfold seedSections at hs
        split at hs
        · cases List.mem_singleton.1 hs
          exact (covers_seed _).2 hfaker
        · cases hs
    · cases List.mem_singleton.1 hs
      exact covers_exportFaker.2 hfaker

end Closed

/-- The contents of each file of the layout are the text of its statements, and the file is closed:
its relative imports and the modules that it exports lead to files of the layout, which export what
is imported, and what its code refers to is declared there or imported. -/
theorem files_closed (config : GeneratorConfig) (doc : Document)
    (hnames : ∀ model ∈ doc.models, Text.isIdentifier model.name = true) :
    ∀ file ∈ files config doc,
      file.contents = file.text ∧ file.ClosedIn (files config doc) := by
  intro file hfile
  refine ⟨file.contents_eq, ?_⟩
  rcases List.mem_append.1 hfile with hfile | hindex
  · rcases List.mem_append.1 hfile with hfile | hmodels
    · rcases List.mem_append.1 hfile with henums | hfaker
      · unfold enumFiles at henums
        split at henums
        · cases List.mem_singleton.1 henums
          exact enumFile_closed
        · cases henums
      · unfold fakerFiles at hfaker
        split at hfaker
        · cases List.mem_singleton.1 hfaker
          exact fakerFile_closed
        · cases hfaker
    · obtain ⟨model, hmodel, hfile⟩ := List.mem_flatMap.1 hmodels
      rcases List.mem_append.1 hfile with hfile | hfile
      · split at hfile
        · rename_i hzod
          cases List.mem_singleton.1 hfile
          exact schemaFile_closed hnames hzod hmodel
        · cases hfile
      · split at hfile
        · rename_i hmocks
          cases List.mem_singleton.1 hfile
          exact mockFile_closed hnames hmocks hmodel
        · cases hfile
  · exact indexFile_closed hnames hindex

/-- Two models that point at each other, and at an enum. -/
def postsDocument : Document where
  models := [
    Model.bare "User" [Field.bare "posts" .relation "Post", Field.bare "role" .enum "Role"],
    Model.bare "Post" [Field.bare "author" .relation "User"]]
  enums := [⟨"Role", [⟨"ADMIN", none⟩], none, none⟩]
  types := []

theorem files_closed_posts :
    (∀ model ∈ postsDocument.models, Text.isIdentifier model.name = true) ∧
      ∀ file ∈ files .standard postsDocument,
        file.contents = file.text ∧ file.ClosedIn (files .standard postsDocument) := by
  have hnames : ∀ model ∈ postsDocument.models, Text.isIdentifier model.name = true := by
    decide +kernel
  exact ⟨hnames, files_closed .standard postsDocument hnames⟩

/-- A model with a field whose documentation calls the factory of another model. -/
def suppliedDocument : Document where
  models := [
    Model.bare "User"
      [{ Field.bare "note" .scalar "String" with documentation := some "@mock createPostMock()" }],
    Model.bare "Post" []]
  enums := []
  types := []

/-- A valid document, named by identifiers, and a file of the layout whose code calls a factory that
is neither declared there nor imported: the call is supplied by the documentation of a field. -/
theorem supplied_factory_not_imported :
    suppliedDocument.validate = .ok () ∧
      (∀ model ∈ suppliedDocument.models, Text.isIdentifier model.name = true) ∧
      ∃ file ∈ files .standard suppliedDocument,
        file.contents = file.text ∧
        Piece.name .supplied (factoryName "Post") ∈ file.pieces ∧
          factoryName "Post" ∉ file.scope.values := by
  refine ⟨by decide +kernel, by decide +kernel,
    mockFile .standard suppliedDocument (suppliedDocument.models.head (by decide)),
    mockFile_mem_files rfl List.mem_cons_self, SourceFile.contents_eq _, ?_, ?_⟩ <;>
    decide +kernel

end PerModel

end SchemaMocks.TypeScript
