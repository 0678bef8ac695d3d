import SchemaMocks.TypeScript.SourceFile

set_option autoImplicit false
set_option relaxedAutoImplicit false

/-!
The bundled layout: everything in one file, or the factories in a second file that imports what it
needs from the first.
-/

namespace SchemaMocks.TypeScript.Bundle

def schemaSections (config : GeneratorConfig) (doc : Document) : List Section :=
  if config.createZodSchemas then
    (if doc.enums.isEmpty then [] else .heading "Enums" :: doc.enums.map Section.enum)
      ++ .heading "Zod Schemas" :: doc.models.map fun m => .schema (ModelSchema.ofModel config doc m)
  else []

def mockSections (config : GeneratorConfig) (doc : Document) : List Section :=
  .heading "Mock Factories" :: doc.models.map fun m => .factory (ModelFactory.ofModel config doc m)

/-- The names that the file of factories takes from the first file. -/
def indexNames (config : GeneratorConfig) (doc : Document) : List String :=
  if config.createZodSchemas then
    doc.models.flatMap fun m =>
      (if config.createModelTypes then [m.name] else []) ++ [m.name ++ "Schema"]
  else []

/-- The file of everything, or of everything but the factories. -/
def indexFile (config : GeneratorConfig) (doc : Document) (withMocks : Bool) : SourceFile where
  path := "index.ts"
  sections :=
    [.imports ((if config.createZodSchemas then [Import.zod] else [])
        ++ (if withMocks then [Import.faker config.mockDataLocale] else []))]
      ++ (if withMocks then seedSections config else [])
      ++ schemaSections config doc
      ++ (if withMocks then mockSections config doc else [])

def mocksFile (config : GeneratorConfig) (doc : Document) : SourceFile where
  path := "mocks.ts"
  sections :=
    let names := indexNames config doc
    [.imports ((if config.createZodSchemas && !config.createModelTypes then [Import.zod] else [])
        ++ [Import.faker config.mockDataLocale]
        ++ (if names.isEmpty then [] else [Import.plain names "./index"]))]
      ++ seedSections config
      ++ mockSections config doc

def files (config : GeneratorConfig) (doc : Document) : List SourceFile :=
  let separate := config.createMockFactories && config.mockOutputSeparate
  indexFile config doc (config.createMockFactories && !separate)
    :: (if separate then [mocksFile config doc] else [])

end SchemaMocks.TypeScript.Bundle
