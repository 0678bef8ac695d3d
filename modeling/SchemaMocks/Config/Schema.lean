import SchemaMocks.Json.Basic

set_option autoImplicit false
set_option relaxedAutoImplicit false

/-!
The JSON Schema of configurations.
-/

namespace SchemaMocks.ConfigSchema

def switch (description : String) (default : Bool) : Json :=
  .object [("description", .string description), ("default", .bool default),
    ("type", .string "boolean")]

def unsigned (format : String) : List (String × Json) :=
  [("format", .string format), ("minimum", .number (.decimal (Finite64.zero false)))]

def word (description : String) (default : Nat) : Json :=
  .object ([("description", .string description), ("default", .nat default),
    ("type", .string "integer")] ++ unsigned "uint32")

/-- The property of every setting, in ascending order of keys. -/
def properties : List (String × Json) := [
  ("coerceDate", switch "Use `z.coerce.date()` for DateTime fields." true),
  ("createInputTypes", switch "Emit create/update input schemas." true),
  ("createMockFactories", switch "Emit mock factories for every model." true),
  ("createModelTypes", switch "Emit `z.infer` type aliases." true),
  ("createPartialTypes", switch "Emit `.partial()` schemas." false),
  ("createRelationMocks",
    switch "Recursively build related models up to the depth bound." true),
  ("createZodSchemas", switch "Emit Zod schemas for every model." true),
  ("mockDataLocale", .object [
    ("description", .string "Faker locale, e.g. `en`, `de`, `pt_BR`."),
    ("default", .string "en"), ("type", .string "string")]),
  ("mockDateRange", word "Window in days for recent dates." 30),
  ("mockOutputSeparate",
    switch "In single-file mode, write mock factories to `mocks.ts`." false),
  ("mockSeed", .object ([
    ("description", .string "Seed applied to faker before any mock is built."),
    ("default", .null), ("type", Json.strings ["integer", "null"])] ++ unsigned "uint64")),
  ("modelDepths", .object [
    ("description", .string "Per-model relation depth overrides."),
    ("default", .object []), ("type", .string "object"),
    ("additionalProperties", .object (("type", .string "integer") :: unsigned "uint32"))]),
  ("relationMaxDepth", word "Default relation depth bound." 4),
  ("useDefaultValidators",
    switch "Add `.email()`, `.url()`, `.cuid()` and `.uuid()` refinements." true),
  ("useMultipleFiles",
    switch "Write one file per model instead of a single `index.ts`." false),
  ("writeBarrelFiles", switch "Write an aggregating `index.ts` in multi-file mode." true)]

def document : Json :=
  .object [
    ("$schema", .string "http://json-schema.org/draft-07/schema#"),
    ("title", .string "GeneratorConfig"),
    ("description", .string "Generation toggles read from the Prisma `generator` block."),
    ("type", .string "object"),
    ("properties", .object properties)]

end SchemaMocks.ConfigSchema
