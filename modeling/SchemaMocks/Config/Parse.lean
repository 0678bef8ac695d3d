import SchemaMocks.Config.Basic
import SchemaMocks.Json.Reader
import SchemaMocks.Notice
import SchemaMocks.Text.Blank
import SchemaMocks.Text.Case

set_option autoImplicit false
set_option relaxedAutoImplicit false

/-!
Configuration from texts. Keys are taken in ascending order. A value that does not parse leaves its
setting at the default and is reported as an issue; so is an unknown key, unless it is meant for
others. Depths of models that are no depths are skipped one by one.
-/

namespace SchemaMocks

/-- Why a value was not taken over. -/
inductive ConfigIssue where
  | badSwitch (key raw : String)
  | emptyLocale
  | badInteger (key raw : String)
  | depthsNotJson (raw : String)
  | depthsNotObject (raw : String)
  | unknownKey (key : String)
  deriving DecidableEq

namespace ConfigIssue

def code : ConfigIssue → String
  | badSwitch .. => "invalid_bool"
  | emptyLocale => "invalid_locale"
  | badInteger .. => "invalid_integer"
  | depthsNotJson .. => "invalid_json"
  | depthsNotObject .. => "invalid_json"
  | unknownKey .. => "unknown_key"

def key : ConfigIssue → String
  | badSwitch key _ => key
  | emptyLocale => "mockDataLocale"
  | badInteger key _ => key
  | depthsNotJson _ => "modelDepths"
  | depthsNotObject _ => "modelDepths"
  | unknownKey key => key

def message : ConfigIssue → String
  | badSwitch key raw => "expected \"true\" or \"false\" for " ++ key ++ ", got '" ++ raw ++ "'"
  | emptyLocale => "mockDataLocale must not be empty"
  | badInteger key raw => "expected a non-negative integer for " ++ key ++ ", got '" ++ raw ++ "'"
  | depthsNotJson raw => "failed to parse modelDepths JSON '" ++ raw ++ "'"
  | depthsNotObject raw => "modelDepths must be a JSON object, got '" ++ raw ++ "'"
  | unknownKey key => "unknown config key '" ++ key ++ "' ignored"

def notice (issue : ConfigIssue) : Notice :=
  .configValueIgnored issue.key issue.code issue.message

end ConfigIssue

/-- A configuration, the issues found on the way to it, and everything that was noticed. -/
structure ParsedConfig where
  config : GeneratorConfig
  issues : List ConfigIssue
  notices : List Notice

namespace ParsedConfig

def switchValue? (raw : String) : Option Bool :=
  let word := Text.asciiLowered (Text.trimmed raw)
  if word == "true" then some true
  else if word == "false" then some false
  else none

def depth? : Json → Option UInt32
  | .number n => (n.toNat?.filter (· < 4294967296)).map UInt32.ofNat
  | _ => none

def depthsOf (entries : List (String × Json)) : Dictionary UInt32 :=
  Dictionary.ofList (entries.filterMap fun (model, value) => (depth? value).map fun d => (model, d))

def skippedDepths (entries : List (String × Json)) : List Notice :=
  entries.filterMap fun (model, value) =>
    if (depth? value).isNone then some (.depthSkipped model value) else none

def depthEntries (raw : String) : Except ConfigIssue (List (String × Json)) :=
  match Json.read? raw with
  | none => .error (.depthsNotJson raw)
  | some (.object entries) => .ok entries
  | some _ => .error (.depthsNotObject raw)

/-- Takes over the value of one setting. -/
def setValue (config : GeneratorConfig) (key raw : String) :
    Setting → Except ConfigIssue GeneratorConfig
  | .switch s =>
    match switchValue? raw with
    | some value => .ok (s.set config value)
    | none => .error (.badSwitch key raw)
  | .locale =>
    if Text.isBlankText raw then .error .emptyLocale
    else .ok { config with mockDataLocale := Text.trimmed raw }
  | .seed =>
    match Text.word64? (Text.trimmed raw) with
    | some n => .ok { config with mockSeed := some n }
    | none => .error (.badInteger key raw)
  | .dateRange =>
    match Text.word32? (Text.trimmed raw) with
    | some n => .ok { config with mockDateRange := n }
    | none => .error (.badInteger key raw)
  | .maxDepth =>
    match Text.word32? (Text.trimmed raw) with
    | some n => .ok { config with relationMaxDepth := n }
    | none => .error (.badInteger key raw)
  | .modelDepths =>
    (depthEntries raw).map fun entries => { config with modelDepths := depthsOf entries }

/-- Takes over the value of one key. -/
def setKey (config : GeneratorConfig) (key raw : String) : Except ConfigIssue GeneratorConfig :=
  match Setting.ofKey? key with
  | some setting => setValue config key raw setting
  | none =>
    if Setting.passthroughKeys.contains key then .ok config else .error (.unknownKey key)

/-- What is noticed about a value beside its issue. -/
def valueNotices (key raw : String) : List Notice :=
  if key == "modelDepths" then
    match depthEntries raw with
    | .ok entries => skippedDepths entries
    | .error _ => []
  else []

def step (parsed : ParsedConfig) (key raw : String) : ParsedConfig :=
  match setKey parsed.config key raw with
  | .ok config =>
    { parsed with config := config, notices := parsed.notices ++ valueNotices key raw }
  | .error issue =>
    { parsed with issues := parsed.issues ++ [issue], notices := parsed.notices ++ [issue.notice] }

def ofValues (values : Dictionary String) : ParsedConfig :=
  values.entries.foldl (fun parsed (key, raw) => parsed.step key raw) ⟨GeneratorConfig.standard, [], []⟩

def isClean (parsed : ParsedConfig) : Bool :=
  parsed.issues.isEmpty

def issuesFor (parsed : ParsedConfig) (key : String) : List ConfigIssue :=
  parsed.issues.filter (·.key == key)

end ParsedConfig

end SchemaMocks
