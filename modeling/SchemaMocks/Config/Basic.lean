import SchemaMocks.Text.Dictionary

set_option autoImplicit false
set_option relaxedAutoImplicit false

/-!
The configuration of a generation run: eleven switches and five other settings, each with a key and
a default.
-/

namespace SchemaMocks

/-- The settings of a generation run. -/
structure GeneratorConfig where
  createZodSchemas : Bool
  useMultipleFiles : Bool
  writeBarrelFiles : Bool
  createInputTypes : Bool
  createModelTypes : Bool
  createPartialTypes : Bool
  useDefaultValidators : Bool
  coerceDate : Bool
  createMockFactories : Bool
  mockDataLocale : String
  mockSeed : Option UInt64
  mockDateRange : UInt32
  createRelationMocks : Bool
  mockOutputSeparate : Bool
  relationMaxDepth : UInt32
  modelDepths : Dictionary UInt32
  deriving DecidableEq

namespace GeneratorConfig

def standard : GeneratorConfig where
  createZodSchemas := true
  useMultipleFiles := false
  writeBarrelFiles := true
  createInputTypes := true
  createModelTypes := true
  createPartialTypes := false
  useDefaultValidators := true
  coerceDate := true
  createMockFactories := true
  mockDataLocale := "en"
  mockSeed := none
  mockDateRange := 30
  createRelationMocks := true
  mockOutputSeparate := false
  relationMaxDepth := 4
  modelDepths := Dictionary.empty

/-- The relation depth bound of a model: its own, else the general one. -/
def depthFor (config : GeneratorConfig) (model : String) : UInt32 :=
  (config.modelDepths.get? model).getD config.relationMaxDepth

end GeneratorConfig

/-- The settings that are on or off. -/
inductive Switch where
  | createZodSchemas
  | useMultipleFiles
  | writeBarrelFiles
  | createInputTypes
  | createModelTypes
  | createPartialTypes
  | useDefaultValidators
  | coerceDate
  | createMockFactories
  | createRelationMocks
  | mockOutputSeparate
  deriving DecidableEq

namespace Switch

def set (config : GeneratorConfig) (value : Bool) : Switch → GeneratorConfig
  | createZodSchemas => { config with createZodSchemas := value }
  | useMultipleFiles => { config with useMultipleFiles := value }
  | writeBarrelFiles => { config with writeBarrelFiles := value }
  | createInputTypes => { config with createInputTypes := value }
  | createModelTypes => { config with createModelTypes := value }
  | createPartialTypes => { config with createPartialTypes := value }
  | useDefaultValidators => { config with useDefaultValidators := value }
  | coerceDate => { config with coerceDate := value }
  | createMockFactories => { config with createMockFactories := value }
  | createRelationMocks => { config with createRelationMocks := value }
  | mockOutputSeparate => { config with mockOutputSeparate := value }

def get (config : GeneratorConfig) : Switch → Bool
  | createZodSchemas => config.createZodSchemas
  | useMultipleFiles => config.useMultipleFiles
  | writeBarrelFiles => config.writeBarrelFiles
  | createInputTypes => config.createInputTypes
  | createModelTypes => config.createModelTypes
  | createPartialTypes => config.createPartialTypes
  | useDefaultValidators => config.useDefaultValidators
  | coerceDate => config.coerceDate
  | createMockFactories => config.createMockFactories
  | createRelationMocks => config.createRelationMocks
  | mockOutputSeparate => config.mockOutputSeparate

end Switch

inductive Setting where
  | switch (s : Switch)
  | locale
  | seed
  | dateRange
  | maxDepth
  | modelDepths
  deriving DecidableEq

namespace Setting

/-- Every setting with its key, in the order of the documentation. -/
def keyed : List (String × Setting) := [
  ("createZodSchemas", switch .createZodSchemas),
  ("useMultipleFiles", switch .useMultipleFiles),
  ("writeBarrelFiles", switch .writeBarrelFiles),
  ("createInputTypes", switch .createInputTypes),
  ("createModelTypes", switch .createModelTypes),
  ("createPartialTypes", switch .createPartialTypes),
  ("useDefaultValidators", switch .useDefaultValidators),
  ("coerceDate", switch .coerceDate),
  ("createMockFactories", switch .createMockFactories),
  ("mockDataLocale", locale),
  ("mockSeed", seed),
  ("mockDateRange", dateRange),
  ("createRelationMocks", switch .createRelationMocks),
  ("mockOutputSeparate", switch .mockOutputSeparate),
  ("relationMaxDepth", maxDepth),
  ("modelDepths", modelDepths)]

def knownKeys : List String :=
  keyed.map (·.1)

def passthroughKeys : List String :=
  ["provider", "output", "binaryTargets", "previewFeatures"]

def ofKey? (key : String) : Option Setting :=
  Entries.get? key keyed

end Setting

end SchemaMocks
