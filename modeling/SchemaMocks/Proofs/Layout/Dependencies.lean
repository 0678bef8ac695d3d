import SchemaMocks.Proofs.Code.Names
import SchemaMocks.TypeScript.PerModel

set_option autoImplicit false
set_option relaxedAutoImplicit false

/-!
What the files of a model import. The lists of dependencies are computed field by field, and sorted
and grouped by module; here they are described by the fields and the models that they come from.
-/

namespace SchemaMocks

section Fields

variable {doc : Document} {model : Model}

theorem Model.mem_relatedNames {name : String} : name ∈ model.relatedNames doc ↔
    (∃ field ∈ model.relationFields, ∃ target, doc.target? field = some target ∧
      target.name = name) ∧ name ≠ model.name := by
  simp [Model.relatedNames, mem_sortedDistinct, List.mem_filter, List.mem_filterMap]

theorem TypeScript.PerModel.mem_enumNames {name : String} :
    name ∈ TypeScript.PerModel.enumNames doc model ↔
      ∃ field ∈ model.schemaFields, field.kind = .enum ∧ (doc.enum? field.typeName).isSome ∧
        field.typeName = name := by
  simp [TypeScript.PerModel.enumNames, mem_sortedDistinct, List.mem_filter, List.mem_map, and_assoc]

theorem TypeScript.MockDependencies.mem_targetsOf {field : Field} {target : Model} :
    (field, target) ∈ TypeScript.MockDependencies.targetsOf doc model ↔
      field ∈ model.relationFields ∧ doc.target? field = some target ∧
        target.name ≠ model.name := by
  simp only [TypeScript.MockDependencies.targetsOf, List.mem_filter, List.mem_filterMap,
    Option.map_eq_some_iff, Prod.mk.injEq, bne_iff_ne, ne_eq]
  constructor
  · rintro ⟨⟨_, hfield, _, htarget, rfl, rfl⟩, hname⟩
    exact ⟨hfield, htarget, hname⟩
  · rintro ⟨hfield, htarget, hname⟩
    exact ⟨⟨field, hfield, target, htarget, rfl, rfl⟩, hname⟩

end Fields

namespace TypeScript.PerModel

open MockDependencies (targetsOf calledFactory)

def schemaModule (name : String) : String :=
  "../schemas/" ++ Text.lowered name

def mockModule (name : String) : String :=
  "./" ++ Text.lowered name ++ ".mock"

section Mocks

variable {config : GeneratorConfig} {doc : Document} {model : Model}

private theorem mem_factories {name factory : String} :
    (∃ factories, (name, factories) ∈ (MockDependencies.ofModel config doc model).factories.entries ∧
        factory ∈ factories) ↔
      config.createRelationMocks ∧ ∃ field target, (field, target) ∈ targetsOf doc model ∧
        target.name = name ∧ calledFactory field target = factory := by
  let called (name : String) : List String := sortedDistinct
    (((targetsOf doc model).filter fun pair => pair.2.name == name).map fun pair =>
      calledFactory pair.1 pair.2)
  have hcalled (name : String) : factory ∈ called name ↔ ∃ field target,
      (field, target) ∈ targetsOf doc model ∧ target.name = name ∧
        calledFactory field target = factory := by
    simp [called, mem_sortedDistinct, List.mem_filter, and_assoc]
  have hfactories : (MockDependencies.ofModel config doc model).factories =
      if config.createRelationMocks then
        Dictionary.ofList (((targetsOf doc model).map fun pair => pair.2.name).map fun name =>
          (name, called name))
      else Dictionary.empty := by
    simp [MockDependencies.ofModel, called, List.map_map, Function.comp_def]
  simp only [← Dictionary.get?_eq_some_iff, hfactories]
  cases config.createRelationMocks with
  | false => simp [Dictionary.get?_empty]
  | true =>
    simp only [if_true, Dictionary.get?_ofList_map, Option.ite_none_right_eq_some, Option.some.injEq,
      true_and]
    constructor
    · rintro ⟨_, ⟨-, rfl⟩, hfactory⟩
      exact (hcalled name).1 hfactory
    · rintro ⟨field, target, htarget, rfl, rfl⟩
      exact ⟨_, ⟨List.mem_map.2 ⟨_, htarget, rfl⟩, rfl⟩,
        (hcalled _).2 ⟨field, target, htarget, rfl, rfl⟩⟩

private theorem mem_referred {property : Model → Bool} {name : String} :
    name ∈ sortedDistinct (((if hasMockType config model then (targetsOf doc model).map (·.2)
        else []).filter property).map (·.name)) ↔
      hasMockType config model ∧ ∃ field target, (field, target) ∈ targetsOf doc model ∧
        property target ∧ target.name = name := by
  rw [mem_sortedDistinct]
  cases hasMockType config model with
  | false => simp
  | true =>
    simp only [if_true, List.mem_map, List.mem_filter, Prod.exists, true_and]
    constructor
    · rintro ⟨target, ⟨⟨field, _, htarget, rfl⟩, hproperty⟩, rfl⟩
      exact ⟨field, _, htarget, hproperty, rfl⟩
    · rintro ⟨field, target, htarget, hproperty, rfl⟩
      exact ⟨target, ⟨⟨field, target, htarget, rfl⟩, hproperty⟩, rfl⟩

/-- The names that a file of factories imports from other generated modules. -/
inductive MockImport (config : GeneratorConfig) (doc : Document) (model : Model) :
    String → String → Prop where
  | schema (hzod : config.createZodSchemas) :
    MockImport config doc model (schemaModule model.name) (model.name ++ "Schema")
  | type (hzod : config.createZodSchemas) (htypes : config.createModelTypes) :
    MockImport config doc model (schemaModule model.name) model.name
  | factory {field : Field} {target : Model} (hcreate : config.createRelationMocks)
    (htarget : (field, target) ∈ targetsOf doc model) :
    MockImport config doc model (mockModule target.name) (calledFactory field target)
  | mockType {field : Field} {target : Model} (hmodel : hasMockType config model)
    (htarget : (field, target) ∈ targetsOf doc model) (hmock : hasMockType config target) :
    MockImport config doc model (mockModule target.name) (target.name ++ "Mock")
  | targetType {field : Field} {target : Model} (hmodel : hasMockType config model)
    (htarget : (field, target) ∈ targetsOf doc model) (hmock : hasMockType config target = false) :
    MockImport config doc model (schemaModule target.name)
      (if config.createModelTypes then target.name else target.name ++ "Schema")

theorem mem_mockImportedNames {module name : String} :
    (module, name) ∈ mockImportedNames config doc model ↔
      MockImport config doc model module name := by
  unfold mockImportedNames
  dsimp only
  simp only [List.mem_append, List.mem_flatMap, List.mem_map, Prod.exists, Prod.mk.injEq]
  constructor
  · rintro (((hown | ⟨_, _, hentry, _, hfactory, rfl, rfl⟩) | ⟨_, hname, rfl, rfl⟩)
      | ⟨_, hname, rfl, rfl⟩)
    · split at hown
      · rename_i hzod
        rcases List.mem_cons.1 hown with hentry | htype
        · cases hentry
          exact .schema hzod
        · split at htype
          · rename_i htypes
            cases List.mem_singleton.1 htype
            exact .type hzod htypes
          · cases htype
      · cases hown
    · obtain ⟨hcreate, field, target, htarget, rfl, rfl⟩ := mem_factories.1 ⟨_, hentry, hfactory⟩
      exact .factory hcreate htarget
    · obtain ⟨hmodel, field, target, htarget, hmock, rfl⟩ := mem_referred.1 hname
      exact .mockType hmodel htarget hmock
    · obtain ⟨hmodel, field, target, htarget, hmock, rfl⟩ := mem_referred.1 hname
      exact .targetType hmodel htarget (by simpa using hmock)
  · rintro (hzod | ⟨hzod, htypes⟩ | ⟨hcreate, htarget⟩ | ⟨hmodel, htarget, hmock⟩
      | ⟨hmodel, htarget, hmock⟩)
    · simp [hzod, schemaModule]
    · simp [hzod, htypes, schemaModule]
    · obtain ⟨factories, hentry, hfactory⟩ :=
        mem_factories.2 ⟨hcreate, _, _, htarget, rfl, rfl⟩
      exact Or.inl (Or.inl (Or.inr ⟨_, factories, hentry, _, hfactory, rfl, rfl⟩))
    · exact Or.inl (Or.inr ⟨_, mem_referred.2 ⟨hmodel, _, _, htarget, hmock, rfl⟩, rfl, rfl⟩)
    · exact Or.inr ⟨_, mem_referred.2 ⟨hmodel, _, _, htarget, by simp [hmock], rfl⟩, rfl, rfl⟩

theorem mem_schemaImports {i : Import} : i ∈ schemaImports doc model ↔
    i = Import.zod ∨ (enumNames doc model ≠ [] ∧ i = Import.plain (enumNames doc model) "./enums") ∨
      ∃ related ∈ model.relatedNames doc,
        i = Import.plain [related ++ "Schema"] ("./" ++ Text.lowered related) := by
  unfold schemaImports
  cases enumNames doc model <;> simp [eq_comm]

theorem mem_mockImports {i : Import} : i ∈ mockImports config doc model ↔
    i = Import.plain ["faker"] "./faker" ∨
      (config.createZodSchemas ∧ config.createModelTypes = false ∧ i = Import.zod) ∨
        i ∈ groupImports (mockImportedNames config doc model) := by
  unfold mockImports
  cases config.createZodSchemas <;> cases config.createModelTypes <;> simp

theorem groupImports_names_ne_nil {names : List (String × String)} {i : Import}
    (hi : i ∈ groupImports names) : i.names ≠ [] := by
  obtain ⟨module, hmodule, rfl⟩ := List.mem_map.1 hi
  rw [mem_sortedDistinct] at hmodule
  obtain ⟨entry, hentry, rfl⟩ := List.mem_map.1 hmodule
  have hname : entry.2 ∈ sortedDistinct ((names.filter fun n => n.1 == entry.1).map (·.2)) :=
    (mem_sortedDistinct _ _).2
      (List.mem_map.2 ⟨entry, List.mem_filter.2 ⟨hentry, by simp⟩, rfl⟩)
  exact List.ne_nil_of_mem (List.mem_map_of_mem hname)

theorem mem_groupImports {names : List (String × String)} {i : Import} {name : ImportedName}
    (hi : i ∈ groupImports names) (hname : name ∈ i.names) :
    (i.module, name.exported) ∈ names ∧ name.localName = name.exported := by
  obtain ⟨module, -, rfl⟩ := List.mem_map.1 hi
  obtain ⟨exported, hexported, rfl⟩ := List.mem_map.1 hname
  rw [mem_sortedDistinct] at hexported
  obtain ⟨⟨m, n⟩, hentry, rfl⟩ := List.mem_map.1 hexported
  obtain ⟨hmem, hmodule⟩ := List.mem_filter.1 hentry
  obtain rfl : m = module := by simpa using hmodule
  exact ⟨hmem, rfl⟩

theorem mem_localNames_groupImports {names : List (String × String)} {name : String} :
    name ∈ (groupImports names).flatMap Import.localNames ↔ ∃ module, (module, name) ∈ names := by
  constructor
  · intro h
    obtain ⟨i, hi, hname⟩ := List.mem_flatMap.1 h
    obtain ⟨imported, himported, rfl⟩ := List.mem_map.1 hname
    obtain ⟨hmem, hlocal⟩ := mem_groupImports hi himported
    exact ⟨i.module, hlocal ▸ hmem⟩
  · rintro ⟨module, h⟩
    refine List.mem_flatMap.2 ⟨_, List.mem_map.2 ⟨module, ?_, rfl⟩, ?_⟩
    · exact (mem_sortedDistinct _ _).2 (List.mem_map.2 ⟨_, h, rfl⟩)
    · simp only [Import.localNames, Import.plain, List.map_map, Function.comp_def, List.map_id']
      exact (mem_sortedDistinct _ _).2
        (List.mem_map.2 ⟨(module, name), List.mem_filter.2 ⟨h, by simp⟩, rfl⟩)

end Mocks

end TypeScript.PerModel

end SchemaMocks
