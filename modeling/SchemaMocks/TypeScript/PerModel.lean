import SchemaMocks.TypeScript.SourceFile

set_option autoImplicit false
set_option relaxedAutoImplicit false

/-!
The layout with one file per model: schemas and factories in folders of their own, a file that sets
up the data library, one for the enums, and an index that exports everything again.
-/

namespace SchemaMocks

def Model.stem (model : Model) : String :=
  Text.lowered model.name

namespace TypeScript.PerModel

/-- The known enums that the fields of a model refer to, in ascending order. -/
def enumNames (doc : Document) (model : Model) : List String :=
  let fields := model.schemaFields.filter fun field =>
    field.kind == .enum && (doc.enum? field.typeName).isSome
  sortedDistinct (fields.map (·.typeName))

def schemaImports (doc : Document) (model : Model) : List Import :=
  let enums := enumNames doc model
  [Import.zod]
    ++ (if enums.isEmpty then [] else [Import.plain enums "./enums"])
    ++ (model.relatedNames doc).map fun name =>
      Import.plain [name ++ "Schema"] ("./" ++ Text.lowered name)

/-- The names that a file of factories takes from other generated modules. -/
def mockImportedNames (config : GeneratorConfig) (doc : Document) (model : Model) :
    List (String × String) :=
  let deps := MockDependencies.ofModel config doc model
  let schemaModule := fun name => "../schemas/" ++ Text.lowered name
  let mockModule := fun name => "./" ++ Text.lowered name ++ ".mock"
  (if config.createZodSchemas then
      (schemaModule model.name, model.name ++ "Schema")
        :: (if config.createModelTypes then [(schemaModule model.name, model.name)] else [])
    else [])
    ++ deps.factories.entries.flatMap (fun (name, factories) =>
      factories.map fun factory => (mockModule name, factory))
    ++ deps.mockTypes.map (fun name => (mockModule name, name ++ "Mock"))
    ++ deps.schemaTypes.map fun name =>
      (schemaModule name, if config.createModelTypes then name else name ++ "Schema")

def groupImports (names : List (String × String)) : List Import :=
  (sortedDistinct (names.map (·.1))).map fun module =>
    Import.plain (sortedDistinct ((names.filter fun n => n.1 == module).map (·.2))) module

def mockImports (config : GeneratorConfig) (doc : Document) (model : Model) : List Import :=
  [Import.plain ["faker"] "./faker"]
    ++ (if config.createZodSchemas && !config.createModelTypes then [Import.zod] else [])
    ++ groupImports (mockImportedNames config doc model)

def schemaFile (config : GeneratorConfig) (doc : Document) (model : Model) : SourceFile :=
  ⟨"schemas/" ++ model.stem ++ ".ts",
    [.imports (schemaImports doc model), .schema (ModelSchema.ofModel config doc model)]⟩

def mockFile (config : GeneratorConfig) (doc : Document) (model : Model) : SourceFile :=
  ⟨"mocks/" ++ model.stem ++ ".mock.ts",
    [.imports (mockImports config doc model), .factory (ModelFactory.ofModel config doc model)]⟩

/-- The file of enums, where there are schemas and enums. -/
def enumFiles (config : GeneratorConfig) (doc : Document) : List SourceFile :=
  if config.createZodSchemas && !doc.enums.isEmpty then
    [⟨"schemas/enums.ts", doc.enums.map Section.enum⟩]
  else []

def fakerFiles (config : GeneratorConfig) : List SourceFile :=
  if config.createMockFactories then
    [⟨"mocks/faker.ts",
      [.imports [Import.faker config.mockDataLocale]] ++ seedSections config ++ [.exportFaker]⟩]
  else []

def modelFiles (config : GeneratorConfig) (doc : Document) (model : Model) : List SourceFile :=
  (if config.createZodSchemas then [schemaFile config doc model] else [])
    ++ (if config.createMockFactories then [mockFile config doc model] else [])

def exportedModules (config : GeneratorConfig) (doc : Document) : List String :=
  (if config.createZodSchemas && !doc.enums.isEmpty then ["./schemas/enums"] else [])
    ++ doc.models.flatMap fun model =>
      (if config.createZodSchemas then ["./schemas/" ++ model.stem] else [])
        ++ (if config.createMockFactories then ["./mocks/" ++ model.stem ++ ".mock"] else [])

/-- The index, where one is wanted and there is something to export. -/
def indexFiles (config : GeneratorConfig) (doc : Document) : List SourceFile :=
  let modules := exportedModules config doc
  if config.writeBarrelFiles && !modules.isEmpty then [⟨"index.ts", [.reexports modules]⟩] else []

def files (config : GeneratorConfig) (doc : Document) : List SourceFile :=
  enumFiles config doc ++ fakerFiles config ++ doc.models.flatMap (modelFiles config doc)
    ++ indexFiles config doc

end TypeScript.PerModel

end SchemaMocks
