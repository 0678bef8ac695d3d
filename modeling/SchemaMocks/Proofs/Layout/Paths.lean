import Mathlib.Data.List.Nodup
import Mathlib.Data.List.Perm.Basic
import SchemaMocks.Proofs.Datamodel.Validation
import SchemaMocks.TypeScript.PerModel

set_option autoImplicit false
set_option relaxedAutoImplicit false

/-!
The paths of the layout with one file per model. A model goes by its name in lower case, and the
enums share the folder of the schemas; so the paths differ from each other if and only if the names
of the models differ in lower case and, next to enums, none of them is that of the file of enums.
Validation compares the names as they are, and does not ensure this.
-/

namespace SchemaMocks.TypeScript.PerModel

def schemaPath (stem : String) : String :=
  "schemas/" ++ stem ++ ".ts"

def mockPath (stem : String) : String :=
  "mocks/" ++ stem ++ ".mock.ts"

/-- What the files in the folder of the schemas go by. -/
def schemaStems (doc : Document) : List String :=
  (if doc.enums.isEmpty then [] else ["enums"]) ++ doc.models.map Model.stem

section Paths

private theorem schemaPath_injective : Function.Injective schemaPath := by
  intro s t h
  exact (String.append_right_inj "schemas/").1 ((String.append_left_inj ".ts").1 h)

private theorem mockPath_injective : Function.Injective mockPath := by
  intro s t h
  exact (String.append_right_inj "mocks/").1 ((String.append_left_inj ".mock.ts").1 h)

private theorem head?_schemaPath (stem : String) : (schemaPath stem).toList.head? = some 's' := by
  simp [schemaPath]

private theorem head?_mockPath (stem : String) : (mockPath stem).toList.head? = some 'm' := by
  simp [mockPath]

private theorem mockPath_ne_faker (stem : String) : mockPath stem ≠ "mocks/faker.ts" := by
  intro h
  have hend : ".mock.ts".toList <:+ (mockPath stem).toList := by
    rw [mockPath, String.toList_append]
    exact List.suffix_append _ _
  rw [h] at hend
  exact absurd hend (by decide)

end Paths

section Files

variable (config : GeneratorConfig) (doc : Document)

def schemaPaths : List String :=
  if config.createZodSchemas then (schemaStems doc).map schemaPath else []

def mockPaths : List String :=
  if config.createMockFactories then
    "mocks/faker.ts" :: (doc.models.map Model.stem).map mockPath
  else []

private theorem schemaPaths_nodup_iff : (schemaPaths config doc).Nodup ↔
    (config.createZodSchemas → (schemaStems doc).Nodup) := by
  unfold schemaPaths
  cases config.createZodSchemas with
  | false => simp
  | true => simp [List.nodup_map_iff schemaPath_injective]

private theorem mockPaths_nodup_iff : (mockPaths config doc).Nodup ↔
    (config.createMockFactories → (doc.models.map Model.stem).Nodup) := by
  unfold mockPaths
  cases config.createMockFactories with
  | false => simp
  | true =>
    have hfaker : "mocks/faker.ts" ∉ (doc.models.map Model.stem).map mockPath := by
      intro h
      obtain ⟨stem, -, hstem⟩ := List.mem_map.1 h
      exact mockPath_ne_faker stem hstem
    simp only [if_true, List.nodup_cons, hfaker, not_false_eq_true, true_and, true_implies]
    exact List.nodup_map_iff mockPath_injective

private theorem head?_of_mem_schemaPaths {path : String} (h : path ∈ schemaPaths config doc) :
    path.toList.head? = some 's' := by
  unfold schemaPaths at h
  split at h
  · obtain ⟨stem, -, rfl⟩ := List.mem_map.1 h
    exact head?_schemaPath stem
  · cases h

private theorem head?_of_mem_mockPaths {path : String} (h : path ∈ mockPaths config doc) :
    path.toList.head? = some 'm' := by
  unfold mockPaths at h
  split at h
  · rcases List.mem_cons.1 h with rfl | h
    · rfl
    · obtain ⟨stem, -, rfl⟩ := List.mem_map.1 h
      exact head?_mockPath stem
  · cases h

private theorem schemaPaths_eq : schemaPaths config doc =
    (enumFiles config doc).map SourceFile.path ++ doc.models.flatMap fun model =>
      if config.createZodSchemas then [schemaPath model.stem] else [] := by
  unfold schemaPaths enumFiles schemaStems
  cases config.createZodSchemas with
  | false => simp
  | true => cases doc.enums.isEmpty <;> simp [← List.map_eq_flatMap, schemaPath]

private theorem mockPaths_eq : mockPaths config doc =
    (fakerFiles config).map SourceFile.path ++ doc.models.flatMap fun model =>
      if config.createMockFactories then [mockPath model.stem] else [] := by
  unfold mockPaths fakerFiles
  cases config.createMockFactories with
  | false => simp
  | true => simp [← List.map_eq_flatMap]

/-- The files stand in the two folders, apart from the index. -/
theorem paths_perm : ((files config doc).map SourceFile.path).Perm
    (schemaPaths config doc ++ mockPaths config doc ++
      (indexFiles config doc).map SourceFile.path) := by
  let schemaOf (model : Model) := if config.createZodSchemas then [schemaPath model.stem] else []
  let mockOf (model : Model) := if config.createMockFactories then [mockPath model.stem] else []
  have hmodel (model : Model) :
      (modelFiles config doc model).map SourceFile.path = schemaOf model ++ mockOf model := by
    simp only [modelFiles, schemaOf, mockOf, List.map_append]
    cases config.createZodSchemas <;> cases config.createMockFactories <;> rfl
  have hmodels : (doc.models.flatMap (modelFiles config doc)).map SourceFile.path =
      doc.models.flatMap fun model => schemaOf model ++ mockOf model := by
    rw [List.map_flatMap]
    exact List.flatMap_congr fun model _ => hmodel model
  rw [files, List.map_append, List.map_append, List.map_append, hmodels, schemaPaths_eq,
    mockPaths_eq, List.append_assoc _ _ (List.flatMap _ _), List.append_assoc _ (List.flatMap _ _)]
  refine List.Perm.append_right _ (List.Perm.append_left _ ?_)
  refine ((List.flatMap_append_perm doc.models schemaOf mockOf).symm.append_left _).trans ?_
  exact List.perm_append_comm_assoc _ _ _

/-- The paths differ from each other if and only if what the files in each folder go by does: the
names of the models in lower case, and the name of the file of enums where there is one. -/
theorem paths_nodup_iff : ((files config doc).map SourceFile.path).Nodup ↔
    (config.createZodSchemas → (schemaStems doc).Nodup) ∧
      (config.createMockFactories → (doc.models.map Model.stem).Nodup) := by
  have hindex : ((indexFiles config doc).map SourceFile.path).Nodup ∧
      ∀ path ∈ (indexFiles config doc).map SourceFile.path, path = "index.ts" := by
    unfold indexFiles
    dsimp only
    split <;> simp
  have hfolders : (schemaPaths config doc).Disjoint (mockPaths config doc) := by
    intro path hschema hmock
    have hhead := head?_of_mem_schemaPaths config doc hschema
    rw [head?_of_mem_mockPaths config doc hmock] at hhead
    cases hhead
  have hapart : (schemaPaths config doc ++ mockPaths config doc).Disjoint
      ((indexFiles config doc).map SourceFile.path) := by
    intro path hfolder hpath
    obtain rfl := hindex.2 path hpath
    rcases List.mem_append.1 hfolder with hschema | hmock
    · exact absurd (head?_of_mem_schemaPaths config doc hschema) (by decide)
    · exact absurd (head?_of_mem_mockPaths config doc hmock) (by decide)
  rw [(paths_perm config doc).nodup_iff, List.nodup_append', List.nodup_append',
    schemaPaths_nodup_iff, mockPaths_nodup_iff]
  simp only [hindex.1, hfolders, hapart, and_true]

/-- Two models whose names differ in case only. -/
def caseDocument : Document where
  models := [Model.bare "User" [], Model.bare "user" []]
  enums := []
  types := []

/-- A model that is named like the file of enums. -/
def enumsDocument : Document where
  models := [Model.bare "Enums" []]
  enums := [⟨"Role", [], none, none⟩]
  types := []

/-- Valid documents of which one file overwrites another. -/
theorem paths_repeated :
    (caseDocument.validate = .ok () ∧
        ¬((files GeneratorConfig.standard caseDocument).map SourceFile.path).Nodup) ∧
      enumsDocument.validate = .ok () ∧
        ¬((files GeneratorConfig.standard enumsDocument).map SourceFile.path).Nodup := by
  refine ⟨⟨?_, ?_⟩, ?_, ?_⟩ <;> decide +kernel

end Files

end SchemaMocks.TypeScript.PerModel
