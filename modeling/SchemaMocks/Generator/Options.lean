import SchemaMocks.Datamodel.Json

set_option autoImplicit false
set_option relaxedAutoImplicit false

/-!
The envelope that a schema tool sends with a request: a document and the generator block, whose
settings are texts or lists of texts.
-/

namespace SchemaMocks

open Fields

/-- A value that may come from an environment variable. -/
structure OutputSetting where
  value : Option String
  fromEnvVar : Option String
  deriving DecidableEq

inductive SettingValue where
  | single (text : String)
  | many (texts : List String)
  deriving DecidableEq

structure GeneratorBlock where
  name : String
  output : Option OutputSetting
  settings : Dictionary SettingValue
  deriving DecidableEq

/-- A document with its generator block. -/
structure GeneratorOptions where
  generator : GeneratorBlock
  document : Document
  schemaPath : Option String
  version : Option String
  deriving DecidableEq

namespace SettingValue

def decode : Decoder SettingValue :=
  Decoder.firstOf "ConfigValue" [
    fun j => (Decoder.string j).map single,
    fun j => (Decoder.list Decoder.string j).map many]

def toJson : SettingValue → Json
  | single text => .string text
  | many texts => Json.strings texts

/-- One text for a setting; a list is joined with commas. -/
def flat : SettingValue → String
  | single text => text
  | many texts => Text.joined "," texts

end SettingValue

namespace OutputSetting

def decode : Decoder OutputSetting :=
  Fields.decoder
    (OutputSetting.mk <$> optional "value" Decoder.string <*> optional "fromEnvVar" Decoder.string)
    "struct EnvValue"

def toJson (output : OutputSetting) : Json :=
  .object [
    ("value", Json.optionalString output.value),
    ("fromEnvVar", Json.optionalString output.fromEnvVar)]

end OutputSetting

namespace GeneratorBlock

def decode : Decoder GeneratorBlock :=
  Fields.decoder
    (GeneratorBlock.mk
      <$> withDefault "name" Decoder.string ""
      <*> optional "output" OutputSetting.decode
      <*> withDefault "config" (Decoder.dictionary SettingValue.decode) Dictionary.empty)
    "struct GeneratorSpec"

def toJson (block : GeneratorBlock) : Json :=
  .object [
    ("name", .string block.name),
    ("output", Json.ofOption (block.output.map OutputSetting.toJson)),
    ("config", .object (block.settings.mapValues SettingValue.toJson).entries)]

/-- The output directory, where one with a visible name is set. -/
def outputPath? (block : GeneratorBlock) : Option String :=
  (block.output.bind (·.value)).filter fun value => !Text.isBlankText value

def flatSettings (block : GeneratorBlock) : Dictionary String :=
  block.settings.mapValues SettingValue.flat

end GeneratorBlock

namespace GeneratorOptions

def decode : Decoder GeneratorOptions :=
  Fields.decoder
    (GeneratorOptions.mk
      <$> required "generator" GeneratorBlock.decode
      <*> required "dmmf" Document.decode
      <*> optional "schemaPath" Decoder.string
      <*> optional "version" Decoder.string)
    "struct GeneratorOptions"

def toJson (options : GeneratorOptions) : Json :=
  .object [
    ("generator", options.generator.toJson),
    ("dmmf", options.document.toJson),
    ("schemaPath", Json.optionalString options.schemaPath),
    ("version", Json.optionalString options.version)]

end GeneratorOptions

end SchemaMocks
