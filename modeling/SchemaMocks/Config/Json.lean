import SchemaMocks.Config.Basic
import SchemaMocks.Json.Decode

set_option autoImplicit false
set_option relaxedAutoImplicit false

/-!
The JSON form of configurations. Every key has a default, so any part may be left out.
-/

namespace SchemaMocks.GeneratorConfig

open Fields

def decode : Decoder GeneratorConfig :=
  let d := standard
  Fields.decoder
    (GeneratorConfig.mk
      <$> withDefault "createZodSchemas" Decoder.bool d.createZodSchemas
      <*> withDefault "useMultipleFiles" Decoder.bool d.useMultipleFiles
      <*> withDefault "writeBarrelFiles" Decoder.bool d.writeBarrelFiles
      <*> withDefault "createInputTypes" Decoder.bool d.createInputTypes
      <*> withDefault "createModelTypes" Decoder.bool d.createModelTypes
      <*> withDefault "createPartialTypes" Decoder.bool d.createPartialTypes
      <*> withDefault "useDefaultValidators" Decoder.bool d.useDefaultValidators
      <*> withDefault "coerceDate" Decoder.bool d.coerceDate
      <*> withDefault "createMockFactories" Decoder.bool d.createMockFactories
      <*> withDefault "mockDataLocale" Decoder.string d.mockDataLocale
      <*> optional "mockSeed" Decoder.word64
      <*> withDefault "mockDateRange" Decoder.word32 d.mockDateRange
      <*> withDefault "createRelationMocks" Decoder.bool d.createRelationMocks
      <*> withDefault "mockOutputSeparate" Decoder.bool d.mockOutputSeparate
      <*> withDefault "relationMaxDepth" Decoder.word32 d.relationMaxDepth
      <*> withDefault "modelDepths" (Decoder.dictionary Decoder.word32) d.modelDepths)
    "struct GeneratorConfig"

def toJson (config : GeneratorConfig) : Json :=
  .object [
    ("createZodSchemas", .bool config.createZodSchemas),
    ("useMultipleFiles", .bool config.useMultipleFiles),
    ("writeBarrelFiles", .bool config.writeBarrelFiles),
    ("createInputTypes", .bool config.createInputTypes),
    ("createModelTypes", .bool config.createModelTypes),
    ("createPartialTypes", .bool config.createPartialTypes),
    ("useDefaultValidators", .bool config.useDefaultValidators),
    ("coerceDate", .bool config.coerceDate),
    ("createMockFactories", .bool config.createMockFactories),
    ("mockDataLocale", .string config.mockDataLocale),
    ("mockSeed", Json.ofOption (config.mockSeed.map fun n => .nat n.toNat)),
    ("mockDateRange", .nat config.mockDateRange.toNat),
    ("createRelationMocks", .bool config.createRelationMocks),
    ("mockOutputSeparate", .bool config.mockOutputSeparate),
    ("relationMaxDepth", .nat config.relationMaxDepth.toNat),
    ("modelDepths", .object (config.modelDepths.mapValues fun d => Json.nat d.toNat).entries)]

end SchemaMocks.GeneratorConfig
