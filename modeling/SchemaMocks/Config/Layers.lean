import SchemaMocks.Config.Assignment
import SchemaMocks.Config.Parse
import SchemaMocks.Json.Printer
import SchemaMocks.Storage.Host
import SchemaMocks.Toml.Reader

set_option autoImplicit false
set_option relaxedAutoImplicit false

/-!
Where settings come from. There are three layers of texts under keys: a settings file, assignments
and the generator block of an envelope. For each key the uppermost layer that has it decides.
-/

namespace SchemaMocks

inductive SettingsError where
  | storage (fault : StorageFault)
  | notToml
  | unsupported (key type : String)
  deriving DecidableEq

def SettingsError.message : SettingsError → String
  | storage fault => "io error: " ++ fault.message
  | notToml => "toml error"
  | unsupported key type => "invalid config: unsupported value for '" ++ key ++ "': " ++ type

/-- The text of a setting in a file; a table becomes JSON text. Lists, dates and numbers with a
fraction are no settings. -/
def Toml.Value.setting? : Toml.Value → Option String
  | .string text => some text
  | .integer n => some (toString n.toInt)
  | .boolean value => some (if value then "true" else "false")
  | .table entries => some (Toml.Value.toJson (.table entries)).compact
  | .float _ | .datetime _ | .array _ => none

def settingOfEntry (entry : String × Toml.Value) : Except SettingsError (String × String) :=
  match entry.2.setting? with
  | some text => .ok (entry.1, text)
  | none => .error (.unsupported entry.1 entry.2.typeName)

/-- The settings of a table. The error is about the least key whose value is no setting. -/
def settingsOfTable (table : Dictionary Toml.Value) : Except SettingsError (Dictionary String) :=
  (table.entries.mapM settingOfEntry).map Dictionary.ofList

def settingsOfText (text : String) : Except SettingsError (Dictionary String) :=
  match Toml.read? text with
  | some table => settingsOfTable table
  | none => .error .notToml

/-- The layers of settings, from the lowest to the uppermost. -/
structure SettingLayers where
  file : Dictionary String
  assignments : List Assignment
  generator : Dictionary String

namespace SettingLayers

/-- Assignments as a map; of equal keys the last one counts. -/
def assigned (layers : SettingLayers) : Dictionary String :=
  Dictionary.ofList (layers.assignments.map fun a => (a.key, a.value))

def values (layers : SettingLayers) : Dictionary String :=
  (layers.file.override layers.assigned).override layers.generator

def parsed (layers : SettingLayers) : ParsedConfig :=
  ParsedConfig.ofValues layers.values

end SettingLayers

variable {m : Type → Type} [Monad m] [Host m]

def Host.readText (path : Path) : ExceptT StorageFault m String := do
  let bytes ← ExceptT.mk (Host.read path)
  match String.fromUTF8? bytes with
  | some text => return text
  | none => throw .notText

/-- The settings of a file, none where no file is given. -/
def loadSettings (file : Option Path) : ExceptT SettingsError m (Dictionary String) :=
  match file with
  | none => return Dictionary.empty
  | some path => do
    let text ← ExceptT.adapt .storage (Host.readText (m := m) path)
    ExceptT.mk (pure (settingsOfText text))

end SchemaMocks
