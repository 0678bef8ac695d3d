import SchemaMocks.TypeScript.Factory

set_option autoImplicit false
set_option relaxedAutoImplicit false

/-!
Generated files: a path below the output directory and sections of imports, declarations and
exports. The text of a file is the text of its sections, blank ones left out, with an empty line
between neighbours and a line break at the end.
-/

namespace SchemaMocks.TypeScript

/-- A name that is imported, perhaps under a local name of its own. -/
structure ImportedName where
  exported : String
  localName : String
  deriving DecidableEq

structure Import where
  names : List ImportedName
  module : String
  deriving DecidableEq

namespace Import

def plain (names : List String) (module : String) : Import :=
  ⟨names.map fun name => ⟨name, name⟩, module⟩

def nameText (name : ImportedName) : String :=
  if name.exported = name.localName then name.exported
  else name.exported ++ " as " ++ name.localName

def render (i : Import) : String :=
  "import \x7b " ++ ", ".intercalate (i.names.map nameText) ++ " \x7d from '" ++ i.module ++ "';"

def zod : Import :=
  plain ["z"] "zod"

/-- The import of the data library for a locale: English is the default, others have an instance of
their own that is named for the locale. -/
def faker (localeName : String) : Import :=
  let name := Text.trimmed localeName
  if Text.asciiLowered name = "" || Text.asciiLowered name = "en" then
    plain ["faker"] "@faker-js/faker"
  else
    let binding := (Text.asciiUppered name).map fun c => if c = '-' then '_' else c
    ⟨[⟨"faker" ++ binding, "faker"⟩], "@faker-js/faker"⟩

end Import

inductive Section where
  | imports (list : List Import)
  | seed (value : UInt64)
  | heading (title : String)
  | enum (e : EnumType)
  | schema (s : ModelSchema)
  | factory (f : ModelFactory)
  | exportFaker
  /-- Everything that some modules export. -/
  | reexports (modules : List String)

def Section.render : Section → String
  | imports list => "\n".intercalate (list.map Import.render)
  | seed value => "faker.seed(" ++ toString value.toNat ++ ");"
  | heading title => "// ===== " ++ title ++ " ====="
  | enum e => renderEnum e
  | schema s => s.render
  | factory f => f.render
  | exportFaker => "export \x7b faker \x7d;"
  | reexports modules =>
    "\n".intercalate (modules.map fun m => "export * from '" ++ m ++ "';")

structure SourceFile where
  path : String
  sections : List Section

def SourceFile.contents (file : SourceFile) : String :=
  "\n\n".intercalate ((file.sections.map Section.render).filter fun s => !Text.isBlankText s) ++ "\n"

/-- The section that seeds the data library, where a seed is configured. -/
def seedSections (config : GeneratorConfig) : List Section :=
  match config.mockSeed with
  | some seed => [.seed seed]
  | none => []

end SchemaMocks.TypeScript
