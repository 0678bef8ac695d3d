import SchemaMocks.Config.Assignment
import SchemaMocks.Storage.Path

set_option autoImplicit false
set_option relaxedAutoImplicit false

/-!
The commands of the program and their options. Every option takes a value; only assignments may be
given more than once.
-/

namespace SchemaMocks

/-- Where the input and its settings come from. -/
structure CommandSource where
  input : Path
  settings : Option Path
  assignments : List Assignment

inductive Command where
  | generate (source : CommandSource) (output : Option Path)
  | sample (source : CommandSource) (model : String) (count : Nat) (seed : Option UInt64)
  | analyze (fields : List String)
  | configSchema
  | serve (log : Option Path)

inductive Verb where
  | generate
  | sample
  | analyze
  | configSchema
  | prisma
  deriving DecidableEq

inductive CommandOption where
  | dmmf
  | out
  | model
  | count
  | seed
  | config
  | set
  | logFile
  deriving DecidableEq

namespace CommandOption

def name : CommandOption → String
  | dmmf => "dmmf"
  | out => "out"
  | model => "model"
  | count => "count"
  | seed => "seed"
  | config => "config"
  | set => "set"
  | logFile => "log-file"

def valueName : CommandOption → String
  | dmmf => "DMMF"
  | out => "OUT"
  | model => "MODEL"
  | count => "COUNT"
  | seed => "SEED"
  | config => "CONFIG"
  | set => "KEY=VALUE"
  | logFile => "LOG_FILE"

def about : CommandOption → String
  | dmmf => "DMMF document or Prisma generator options (JSON)"
  | out => "Output directory. Defaults to the envelope's generator output"
  | model => "Model to sample"
  | count => "[default: 1]"
  | seed => "Seed; falls back to `mockSeed`, then 0"
  | config => "TOML file with generator config keys"
  | set => "Config override, e.g. `--set relationMaxDepth=2`"
  | logFile => "Append JSON log lines here. Logging is off otherwise"

def usage (o : CommandOption) : String :=
  "--" ++ o.name ++ " <" ++ o.valueName ++ ">"

end CommandOption

namespace Verb

def all : List Verb :=
  [generate, sample, analyze, configSchema, prisma]

def name : Verb → String
  | generate => "generate"
  | sample => "sample"
  | analyze => "analyze"
  | configSchema => "config-schema"
  | prisma => "prisma"

def about : Verb → String
  | generate => "Render schemas and mock factories into an output directory"
  | sample => "Print sampled mock records as JSON"
  | analyze => "Print the semantic analysis of field names"
  | configSchema => "Print the JSON Schema of the generator config"
  | prisma => "Run as a Prisma generator over stdio"

def required : Verb → List CommandOption
  | generate => [.dmmf]
  | sample => [.dmmf, .model]
  | _ => []

def options : Verb → List CommandOption
  | generate => [.dmmf, .out, .config, .set]
  | sample => [.dmmf, .model, .count, .seed, .config, .set]
  | analyze | configSchema => []
  | prisma => [.logFile]

def takesFields : Verb → Bool
  | analyze => true
  | _ => false

def ofName? (name : String) : Option Verb :=
  all.find? (·.name == name)

def option? (verb : Verb) (name : String) : Option CommandOption :=
  verb.options.find? (·.name == name)

end Verb

end SchemaMocks
