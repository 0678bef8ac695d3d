import SchemaMocks.Config.Layers
import SchemaMocks.Generation.Run
import SchemaMocks.Generator.Options

set_option autoImplicit false
set_option relaxedAutoImplicit false

/-!
What a generation starts from: a document alone, or a document in an envelope. An object with both a
generator block and a document under their keys is an envelope. With the settings that go with it,
an input makes a job.
-/

namespace SchemaMocks

/-- A document, alone or in an envelope. -/
inductive GeneratorInput where
  | document (doc : Document)
  | envelope (options : GeneratorOptions)
  deriving DecidableEq

inductive InputError where
  | storage (fault : StorageFault)
  | notJson
  | decode (error : DecodeError)

def InputError.message : InputError → String
  | storage fault => "io error: " ++ fault.message
  | notJson => "json error"
  | decode error => "json error: " ++ error.message

namespace GeneratorInput

def isEnvelope (j : Json) : Bool :=
  (j.get? "generator").isSome && (j.get? "dmmf").isSome

def decode : Decoder GeneratorInput := fun j =>
  if isEnvelope j then (GeneratorOptions.decode j).map envelope
  else (Document.decode j).map document

def ofText (text : String) : Except InputError GeneratorInput :=
  match Json.read? text with
  | none => .error .notJson
  | some j => (decode j).mapError .decode

def doc : GeneratorInput → Document
  | document doc => doc
  | envelope options => options.document

def output? : GeneratorInput → Option Path
  | document _ => none
  | envelope options => options.generator.outputPath?.map Path.mk

def settings : GeneratorInput → Dictionary String
  | document _ => Dictionary.empty
  | envelope options => options.generator.flatSettings

end GeneratorInput

/-- Everything that a generation needs. -/
structure GenerationJob where
  document : Document
  parsed : ParsedConfig
  output : Option Path

def GeneratorOptions.job (options : GeneratorOptions) : GenerationJob :=
  ⟨options.document, ParsedConfig.ofValues options.generator.flatSettings,
    options.generator.outputPath?.map Path.mk⟩

/-- The job of an input, with the settings of a file, assignments and an output directory that goes
before the input's own. -/
def GeneratorInput.job (input : GeneratorInput) (file : Dictionary String)
    (assignments : List Assignment) (output : Option Path) : GenerationJob :=
  ⟨input.doc, (SettingLayers.mk file assignments input.settings).parsed,
    output.orElse fun _ => input.output?⟩

variable {m : Type → Type} [Monad m] [Host m]

def GenerationJob.run (job : GenerationJob) : ExceptT GenerationError m GenerationResult := do
  Host.notices (m := m) job.parsed.notices
  job.document.generate job.parsed.config job.output

def loadInput (path : Path) : ExceptT InputError m GeneratorInput := do
  let text ← ExceptT.adapt .storage (Host.readText (m := m) path)
  ExceptT.mk (pure (GeneratorInput.ofText text))

end SchemaMocks
