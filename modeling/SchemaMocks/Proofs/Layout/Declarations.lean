import Mathlib.Data.List.Nodup
import Mathlib.Data.List.Perm.Basic
import SchemaMocks.Proofs.Code.Names
import SchemaMocks.Proofs.Datamodel.Validation
import SchemaMocks.Proofs.Factories.Program
import SchemaMocks.Proofs.Text.Identifier
import SchemaMocks.TypeScript.Bundle

set_option autoImplicit false
set_option relaxedAutoImplicit false

/-!
The declarations of the file that everything is bundled in. What a model declares is its name with
an ending, and the endings are told apart from behind; so declarations of different models meet only
where a model is named like what another one derives from its name. Declarations of models meet an
enum only where it has a derived name. Validation compares the names as they are, and rules out
neither.
-/

namespace SchemaMocks.TypeScript

section Endings

def endings : List String :=
  ["CreateInput", "UpdateInput", "Partial", "Mock", "MockBatch", "Schema"]

private theorem endings_apart :
    ∀ s ∈ endings, ∀ t ∈ endings, s.toList <:+ t.toList → s = t := by
  decide

private theorem append_ending_inj {a b s t : String} (hs : s ∈ endings) (ht : t ∈ endings)
    (h : a ++ s = b ++ t) : a = b ∧ s = t := by
  have hlist : a.toList ++ s.toList = b.toList ++ t.toList := by
    rw [← String.toList_append, ← String.toList_append, h]
  have hst : s = t := by
    rcases List.suffix_or_suffix_of_suffix (List.suffix_append a.toList s.toList)
      (hlist ▸ List.suffix_append b.toList t.toList) with h | h
    · exact endings_apart s hs t ht h
    · exact (endings_apart t ht s hs h).symm
  subst hst
  exact ⟨(String.append_left_inj s).1 h, rfl⟩

private theorem append_ending_injective {s : String} :
    Function.Injective fun a : String => a ++ s :=
  fun _ _ h => (String.append_left_inj s).1 h

end Endings

section Families

variable (config : GeneratorConfig) (doc : Document)

def schemaEndings : List String :=
  (if config.createInputTypes then ["CreateInput", "UpdateInput"] else [])
    ++ (if config.createPartialTypes then ["Partial"] else [])

def mockEndings (model : Model) : List String :=
  if hasMockType config model then ["Mock"] else []

def extendedNames (models : List Model) (ends : Model → List String) : List String :=
  models.map (·.name) ++ models.flatMap fun model => (ends model).map (model.name ++ ·)

private theorem schemaEndings_nodup :
    (schemaEndings config).Nodup ∧ schemaEndings config ⊆ endings := by
  unfold schemaEndings
  split <;> split <;> decide

private theorem schemaEndings_append_nodup (model : Model) :
    (schemaEndings config ++ mockEndings config model).Nodup ∧
      schemaEndings config ++ mockEndings config model ⊆ endings := by
  unfold schemaEndings mockEndings
  split <;> split <;> split <;> decide

section Extensions

variable {models : List Model} (hnames : (models.map (·.name)).Nodup)
  {ends : Model → List String} (hends : ∀ model, (ends model).Nodup ∧ ends model ⊆ endings)

include hnames hends

private theorem extensions_nodup :
    (models.flatMap fun model => (ends model).map (model.name ++ ·)).Nodup := by
  refine List.nodup_flatMap.2 ⟨fun model _ => ?_, (List.pairwise_map.1 hnames).imp ?_⟩
  · exact (hends model).1.map fun _ _ h => (String.append_right_inj model.name).1 h
  · intro a b hne name ha hb
    obtain ⟨s, hs, rfl⟩ := List.mem_map.1 ha
    obtain ⟨t, ht, h⟩ := List.mem_map.1 hb
    exact hne (append_ending_inj ((hends b).2 ht) ((hends a).2 hs) h).1.symm

private theorem extendedNames_nodup_iff : (extendedNames models ends).Nodup ↔
    ∀ model ∈ models, ∀ ending ∈ ends model, model.name ++ ending ∉ models.map (·.name) := by
  rw [extendedNames, List.nodup_append']
  simp only [hnames, extensions_nodup hnames hends, true_and]
  constructor
  · intro hdisjoint model hmodel ending hending hname
    exact hdisjoint hname (List.mem_flatMap.2 ⟨model, hmodel, List.mem_map_of_mem hending⟩)
  · intro h name hname hextended
    obtain ⟨model, hmodel, hextended⟩ := List.mem_flatMap.1 hextended
    obtain ⟨ending, hending, rfl⟩ := List.mem_map.1 hextended
    exact h model hmodel ending hending hname

end Extensions

private theorem flatMap_cons_perm {α β : Type} (items : List α) (key : α → β) (rest : α → List β) :
    (items.flatMap fun a => key a :: rest a).Perm (items.map key ++ items.flatMap rest) := by
  rw [List.map_eq_flatMap]
  exact (List.flatMap_append_perm items (fun a => [key a]) rest).symm

private theorem stems_perm (models : List Model) :
    (models.flatMap fun model => (ModelSchema.ofModel config doc model).stems).Perm
      (extendedNames models fun _ => schemaEndings config) := by
  have hstems (model : Model) : (ModelSchema.ofModel config doc model).stems =
      model.name :: (schemaEndings config).map (model.name ++ ·) := by
    unfold ModelSchema.stems ModelSchema.ofModel schemaEndings
    cases config.createInputTypes <;> cases config.createPartialTypes <;> rfl
  simp only [hstems]
  exact flatMap_cons_perm models _ _

private theorem types_ofModel (model : Model) : (ModelFactory.ofModel config doc model).types =
    (mockEndings config model).map (model.name ++ ·) := by
  unfold ModelFactory.types ModelFactory.ofModel mockEndings
  cases hasMockType config model <;> rfl

private theorem types_perm (models : List Model) :
    ((models.flatMap fun model => (ModelSchema.ofModel config doc model).stems) ++
        models.flatMap fun model => (ModelFactory.ofModel config doc model).types).Perm
      (extendedNames models fun model => schemaEndings config ++ mockEndings config model) := by
  simp only [types_ofModel, extendedNames, List.map_append]
  refine ((stems_perm config doc models).append_right _).trans ?_
  rw [extendedNames, List.append_assoc]
  exact (List.flatMap_append_perm models _ _).append_left _

def factoryStems (model : Model) : List String :=
  model.name :: if config.createZodSchemas then ["Validated" ++ model.name] else []

private theorem factoryConstants_perm (models : List Model) :
    (models.flatMap fun model => (ModelFactory.ofModel config doc model).constants).Perm
      ((models.map (·.name)).map batchName ++
        (models.flatMap (factoryStems config)).map factoryName) := by
  have hvalidated (model : Model) : ModelFactory.validatedName model.name =
      factoryName ("Validated" ++ model.name) := by
    unfold ModelFactory.validatedName factoryName
    simp [← String.toList_inj]
  have hconstants (model : Model) : ((ModelFactory.ofModel config doc model).constants).Perm
      (batchName model.name :: (factoryStems config model).map factoryName) := by
    refine List.Perm.trans (List.Perm.of_eq ?_) (List.Perm.swap ..)
    cases hzod : config.createZodSchemas <;>
      simp [ModelFactory.constants, ModelFactory.ofModel, hzod, hvalidated]
  rw [List.map_map, List.map_flatMap]
  exact (List.Perm.flatMap_left models fun model _ => hconstants model).trans
    (flatMap_cons_perm models _ _)

private theorem factoryConstants_nodup_iff {models : List Model}
    (hnames : (models.map (·.name)).Nodup) :
    (models.flatMap fun model => (ModelFactory.ofModel config doc model).constants).Nodup ↔
      (config.createZodSchemas → ∀ model ∈ models,
        "Validated" ++ model.name ∉ models.map (·.name)) := by
  have hapart : ((models.map (·.name)).map batchName).Disjoint
      ((models.flatMap (factoryStems config)).map factoryName) := by
    intro name hbatch hsingle
    obtain ⟨a, -, rfl⟩ := List.mem_map.1 hbatch
    obtain ⟨b, -, h⟩ := List.mem_map.1 hsingle
    exact factoryName_ne_batchName b a h
  have hvalidated : (models.map fun model => "Validated" ++ model.name).Nodup := by
    have hmap := hnames.map fun a b h => (String.append_right_inj "Validated").1 h
    rwa [List.map_map] at hmap
  rw [(factoryConstants_perm config doc models).nodup_iff, List.nodup_append',
    List.nodup_map_iff batchName_injective, List.nodup_map_iff factoryName_injective]
  simp only [hnames, hapart, and_true, true_and]
  unfold factoryStems
  rw [(flatMap_cons_perm models _ _).nodup_iff]
  cases config.createZodSchemas with
  | false => simpa [List.flatMap_eq_nil_iff.2] using hnames
  | true =>
    simp only [if_true, ← List.map_eq_flatMap, List.nodup_append', hnames, hvalidated, true_and,
      true_implies]
    simp only [List.disjoint_right, List.forall_mem_map]

end Families

namespace Bundle

section Index

variable (config : GeneratorConfig) (doc : Document) (withMocks : Bool)

def modelConstants (model : Model) : List String :=
  (ModelSchema.ofModel config doc model).constants
    ++ if withMocks then (ModelFactory.ofModel config doc model).constants else []

def modelTypes (model : Model) : List String :=
  (ModelSchema.ofModel config doc model).types
    ++ if withMocks then (ModelFactory.ofModel config doc model).types else []

/-- No model and no enum is named like something that is derived from the name of a model. -/
structure NamesApart : Prop where
  schemas : ∀ model ∈ doc.models, ∀ ending ∈ schemaEndings config,
    model.name ++ ending ∉ doc.models.map (·.name)
  validated : withMocks → ∀ model ∈ doc.models,
    "Validated" ++ model.name ∉ doc.models.map (·.name)
  mocks : withMocks → config.createModelTypes → ∀ model ∈ doc.models, hasMockType config model →
    model.name ++ "Mock" ∉ doc.models.map (·.name)
  enums : ∀ model ∈ doc.models, ∀ e ∈ doc.enums,
    e.name ∉ modelConstants config doc withMocks model ∧
      e.name ∉ modelTypes config doc withMocks model

private theorem declared_indexFile {role : NameRole} (hrole : role = .constant ∨ role = .type) :
    namesAs role (indexFile config doc withMocks).pieces =
      (if config.createZodSchemas then doc.enums.map (·.name)
          ++ doc.models.flatMap fun m => (Section.schema (ModelSchema.ofModel config doc m)).given role
        else [])
      ++ if withMocks then
          doc.models.flatMap fun m => (Section.factory (ModelFactory.ofModel config doc m)).given role
        else [] := by
  have hmention : role.isMention = false := by rcases hrole with rfl | rfl <;> rfl
  have hseed : (seedSections config).flatMap (·.given role) = [] := by
    unfold seedSections
    rcases hrole with rfl | rfl <;> split <;> rfl
  have henums : doc.enums.flatMap (fun e => (Section.enum e).given role) =
      doc.enums.map (·.name) := by
    rw [List.map_eq_flatMap]
    rcases hrole with rfl | rfl <;> rfl
  have hother (s : Section) (h : s.given .constant = [] ∧ s.given .type = []) :
      s.given role = [] := by
    rcases hrole with rfl | rfl
    exacts [h.1, h.2]
  have himports (list : List Import) := hother (.imports list) ⟨rfl, rfl⟩
  have hheading (title : String) := hother (.heading title) ⟨rfl, rfl⟩
  have hschemas : (schemaSections config doc).flatMap (·.given role) =
      if config.createZodSchemas then doc.enums.map (·.name)
        ++ doc.models.flatMap fun m => (Section.schema (ModelSchema.ofModel config doc m)).given role
      else [] := by
    unfold schemaSections
    split
    · rw [List.flatMap_append, List.flatMap_cons, hheading, List.flatMap_map, List.nil_append]
      congr 1
      split
      · simp_all
      · rw [List.flatMap_cons, hheading, List.flatMap_map, henums, List.nil_append]
    · rfl
  have hmocks : (mockSections config doc).flatMap (·.given role) =
      doc.models.flatMap fun m => (Section.factory (ModelFactory.ofModel config doc m)).given role := by
    rw [mockSections, List.flatMap_cons, hheading, List.flatMap_map, List.nil_append]
  rw [SourceFile.namesAs_pieces role hmention, SourceFile.given, indexFile]
  simp only [List.flatMap_append, List.flatMap_cons, List.flatMap_nil, himports, List.nil_append,
    hschemas]
  cases withMocks <;> simp [hseed, hmocks]

variable {config doc withMocks}

private theorem mem_models_iff {name : String} {schemas mocks : Model → List String} :
    name ∈ (doc.models.flatMap schemas) ++ (if withMocks then doc.models.flatMap mocks else []) ↔
      ∃ model ∈ doc.models, name ∈ schemas model ++ if withMocks then mocks model else [] := by
  cases withMocks <;> simp [List.mem_flatMap, and_or_left, exists_or]

private theorem enums_append_nodup_iff (henums : (doc.enums.map (·.name)).Nodup)
    {schemas mocks : Model → List String} :
    (doc.enums.map (·.name) ++ doc.models.flatMap schemas
        ++ if withMocks then doc.models.flatMap mocks else []).Nodup ↔
      (doc.models.flatMap schemas ++ if withMocks then doc.models.flatMap mocks else []).Nodup ∧
        ∀ model ∈ doc.models, ∀ e ∈ doc.enums,
          e.name ∉ schemas model ++ if withMocks then mocks model else [] := by
  rw [List.append_assoc, List.nodup_append']
  simp only [henums, true_and]
  refine and_congr_right fun _ => ?_
  constructor
  · intro hdisjoint model hmodel e he hname
    exact hdisjoint (List.mem_map_of_mem he) (mem_models_iff.2 ⟨model, hmodel, hname⟩)
  · intro h name henum hname
    obtain ⟨e, he, rfl⟩ := List.mem_map.1 henum
    obtain ⟨model, hmodel, hname⟩ := mem_models_iff.1 hname
    exact h model hmodel e he hname

private theorem exists_ending_of_mem_factoryConstants {f : ModelFactory} {name : String}
    (h : name ∈ f.constants) : ∃ stem, name = stem ++ "Mock" ∨ name = stem ++ "MockBatch" := by
  unfold ModelFactory.constants at h
  rcases List.mem_append.1 h with h | h
  · obtain rfl | rfl : name = factoryName f.model ∨ name = batchName f.model := by simpa using h
    exacts [⟨_, Or.inl rfl⟩, ⟨_, Or.inr rfl⟩]
  · split at h
    · exact ⟨_, Or.inl (List.mem_singleton.1 h)⟩
    · cases h

private theorem modelConstants_nodup_iff (hzod : config.createZodSchemas)
    (hnames : (doc.models.map (·.name)).Nodup) :
    (doc.models.flatMap (fun m => (ModelSchema.ofModel config doc m).constants)
        ++ if withMocks then doc.models.flatMap fun m => (ModelFactory.ofModel config doc m).constants
          else []).Nodup ↔
      (∀ model ∈ doc.models, ∀ ending ∈ schemaEndings config,
          model.name ++ ending ∉ doc.models.map (·.name)) ∧
        (withMocks → ∀ model ∈ doc.models,
          "Validated" ++ model.name ∉ doc.models.map (·.name)) := by
  have hconstants : (doc.models.flatMap fun m => (ModelSchema.ofModel config doc m).constants) =
      (doc.models.flatMap fun m => (ModelSchema.ofModel config doc m).stems).map (· ++ "Schema") :=
    List.map_flatMap.symm
  have hstems : (doc.models.flatMap fun m => (ModelSchema.ofModel config doc m).stems).Nodup ↔
      ∀ model ∈ doc.models, ∀ ending ∈ schemaEndings config,
        model.name ++ ending ∉ doc.models.map (·.name) := by
    rw [(stems_perm config doc doc.models).nodup_iff]
    exact extendedNames_nodup_iff hnames fun _ => schemaEndings_nodup config
  have hapart : (doc.models.flatMap fun m => (ModelSchema.ofModel config doc m).constants).Disjoint
      (doc.models.flatMap fun m => (ModelFactory.ofModel config doc m).constants) := by
    rw [hconstants]
    intro name hschema hfactory
    obtain ⟨a, -, rfl⟩ := List.mem_map.1 hschema
    obtain ⟨model, -, hfactory⟩ := List.mem_flatMap.1 hfactory
    obtain ⟨b, h | h⟩ := exists_ending_of_mem_factoryConstants hfactory <;>
      exact absurd (append_ending_inj (by decide) (by decide) h).2 (by decide)
  have hschemas := hconstants ▸ (List.nodup_map_iff append_ending_injective).trans hstems
  cases withMocks with
  | false => simpa using hschemas
  | true =>
    have hfactories := factoryConstants_nodup_iff config doc hnames
    simp only [if_true, List.nodup_append', hschemas, hfactories, hapart, hzod, true_implies,
      and_true]

private theorem modelTypes_nodup_iff (hnames : (doc.models.map (·.name)).Nodup)
    (hschemas : ∀ model ∈ doc.models, ∀ ending ∈ schemaEndings config,
      model.name ++ ending ∉ doc.models.map (·.name)) :
    (doc.models.flatMap (fun m => (ModelSchema.ofModel config doc m).types)
        ++ if withMocks then doc.models.flatMap fun m => (ModelFactory.ofModel config doc m).types
          else []).Nodup ↔
      (withMocks → config.createModelTypes → ∀ model ∈ doc.models, hasMockType config model →
        model.name ++ "Mock" ∉ doc.models.map (·.name)) := by
  have htypes (m : Model) : (ModelSchema.ofModel config doc m).types =
      if config.createModelTypes then (ModelSchema.ofModel config doc m).stems else [] := rfl
  cases hcreate : config.createModelTypes with
  | false =>
    have hmocks : (doc.models.flatMap fun m => (ModelFactory.ofModel config doc m).types).Nodup := by
      simp only [types_ofModel]
      refine extensions_nodup hnames fun model => ?_
      have hall := schemaEndings_append_nodup config model
      exact ⟨hall.1.of_append_right, (List.append_subset.1 hall.2).2⟩
    cases withMocks <;> simp [htypes, hcreate, hmocks, List.flatMap_eq_nil_iff.2]
  | true =>
    simp only [htypes, hcreate, if_true, true_implies]
    cases withMocks with
    | false =>
      have hstems := (stems_perm config doc doc.models).nodup_iff.2
        ((extendedNames_nodup_iff hnames fun _ => schemaEndings_nodup config).2 hschemas)
      simp [hstems]
    | true =>
      rw [if_pos rfl, (types_perm config doc doc.models).nodup_iff,
        extendedNames_nodup_iff hnames (schemaEndings_append_nodup config)]
      simp only [true_implies]
      refine forall₂_congr fun model hmodel => ?_
      rw [List.forall_mem_append, and_iff_right (hschemas model hmodel), mockEndings]
      split <;> simp_all

/-- The file of everything declares no constant and no type twice if and only if, where there are
schemas, no name is like one that is derived from the name of a model. -/
private theorem indexFile_nodup_iff (hvalid : doc.WellNamed) :
    (namesAs .constant (indexFile config doc withMocks).pieces).Nodup ∧
        (namesAs .type (indexFile config doc withMocks).pieces).Nodup ↔
      (config.createZodSchemas → NamesApart config doc withMocks) := by
  have hnames := hvalid.models.nodup
  rw [declared_indexFile config doc withMocks (Or.inl rfl),
    declared_indexFile config doc withMocks (Or.inr rfl)]
  cases hzod : config.createZodSchemas with
  | false =>
    have hconstants := (factoryConstants_nodup_iff config doc hnames).2
      fun h => absurd h (by simp [hzod])
    have htypes (m : Model) : (ModelFactory.ofModel config doc m).types = [] := by
      simp [types_ofModel, mockEndings, hasMockType, hzod]
    cases withMocks <;>
      simp [Section.given, declaredAs, hconstants, htypes, List.flatMap_eq_nil_iff.2]
  | true =>
    rw [if_pos rfl, if_pos rfl, enums_append_nodup_iff hvalid.enums.nodup,
      enums_append_nodup_iff hvalid.enums.nodup]
    constructor
    · rintro ⟨⟨hconstants, henumConstants⟩, htypes, henumTypes⟩ -
      obtain ⟨hschemas, hvalidated⟩ := (modelConstants_nodup_iff hzod hnames).1 hconstants
      exact ⟨hschemas, hvalidated, (modelTypes_nodup_iff hnames hschemas).1 htypes,
        fun model hmodel e he => ⟨henumConstants model hmodel e he, henumTypes model hmodel e he⟩⟩
    · intro h
      obtain ⟨hschemas, hvalidated, hmocks, henums⟩ := h rfl
      exact ⟨⟨(modelConstants_nodup_iff hzod hnames).2 ⟨hschemas, hvalidated⟩,
          fun model hmodel e he => (henums model hmodel e he).1⟩,
        (modelTypes_nodup_iff hnames hschemas).2 hmocks,
        fun model hmodel e he => (henums model hmodel e he).2⟩

end Index

/-- Whether the file of everything has the factories too. -/
def hasInlineMocks (config : GeneratorConfig) : Bool :=
  config.createMockFactories && !config.mockOutputSeparate

private theorem eq_indexFile_of_mem_files {config : GeneratorConfig} {doc : Document}
    {file : SourceFile}
    (hfile : file ∈ files config doc) (hpath : file.path = "index.ts") :
    file = indexFile config doc (hasInlineMocks config) := by
  unfold files at hfile
  dsimp only at hfile
  rcases List.mem_cons.1 hfile with rfl | hmocks
  · unfold hasInlineMocks
    cases config.createMockFactories <;> rfl
  · split at hmocks
    · rw [List.mem_singleton] at hmocks
      subst hmocks
      have hmocks : "mocks.ts" = "index.ts" := hpath
      exact absurd hmocks (by decide)
    · cases hmocks

/-- The contents of the file of everything are the text of its statements. For a valid document, they
declare no constant and no type twice if and only if, where there are schemas, no name of a model and
no name of an enum is like one that is derived from the name of a model. -/
theorem declarations_nodup_iff {config : GeneratorConfig} {doc : Document}
    (hvalid : doc.validate = .ok ()) {file : SourceFile} (hfile : file ∈ files config doc)
    (hpath : file.path = "index.ts") :
    file.contents = file.text ∧
      ((namesAs .constant file.pieces).Nodup ∧ (namesAs .type file.pieces).Nodup ↔
        (config.createZodSchemas → NamesApart config doc (hasInlineMocks config))) := by
  refine ⟨file.contents_eq, ?_⟩
  rw [eq_indexFile_of_mem_files hfile hpath]
  exact indexFile_nodup_iff ((Document.validate_eq_ok_iff doc).1 hvalid)

/-- A model, and one that is named like the schemas of new records of the first. -/
def inputDocument : Document where
  models := [Model.bare "User" [], Model.bare "UserCreateInput" []]
  enums := []
  types := []

theorem declarations_nodup_iff_inputs :
    inputDocument.validate = .ok () ∧
      (indexFile .standard inputDocument true).contents =
        (indexFile .standard inputDocument true).text ∧
      ¬((namesAs .constant (indexFile .standard inputDocument true).pieces).Nodup ∧
        (namesAs .type (indexFile .standard inputDocument true).pieces).Nodup) := by
  have hvalid : inputDocument.validate = .ok () := by decide +kernel
  have hfile : indexFile .standard inputDocument true ∈ files .standard inputDocument :=
    List.mem_cons_self
  obtain ⟨hcontents, hnodup⟩ := declarations_nodup_iff hvalid hfile rfl
  refine ⟨hvalid, hcontents, fun h => ?_⟩
  exact absurd ((hnodup.1 h rfl).schemas _ List.mem_cons_self "CreateInput" (by decide))
    (by decide)

/-- A valid document, named by identifiers, of which the file of everything declares a constant
twice and a type twice. -/
theorem declarations_repeated :
    inputDocument.validate = .ok () ∧
      (∀ model ∈ inputDocument.models, Text.isIdentifier model.name = true) ∧
      ∃ file ∈ files GeneratorConfig.standard inputDocument, file.path = "index.ts" ∧
        file.contents = file.text ∧
        ¬(namesAs .constant file.pieces).Nodup ∧ ¬(namesAs .type file.pieces).Nodup := by
  refine ⟨?_, ?_, indexFile .standard inputDocument true, List.mem_cons_self, rfl,
    SourceFile.contents_eq _, ?_, ?_⟩ <;> decide +kernel

end Bundle

end SchemaMocks.TypeScript
