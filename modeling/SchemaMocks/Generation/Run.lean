import SchemaMocks.Datamodel.Validation
import SchemaMocks.Generation.Render
import SchemaMocks.Generation.Report
import SchemaMocks.Storage.AtomicWrite

set_option autoImplicit false
set_option relaxedAutoImplicit false

/-!
A generation run: a document is checked, its files are rendered and written, and a report is made.
Nothing is written without an output directory or for an invalid document.
-/

namespace SchemaMocks

inductive GenerationError where
  | missingOutput
  | invalidDocument (fault : DocumentFault)
  | storage (fault : StorageFault)

namespace GenerationError

def message : GenerationError → String
  | missingOutput =>
    "output path is required; set \x60output\x60 in the generator block or pass --out"
  | invalidDocument fault => "invalid document: invalid document: " ++ fault.message
  | storage fault => "io error: " ++ fault.message

end GenerationError

def TypeScript.SourceFile.output (file : SourceFile) : OutputFile :=
  ⟨file.path, file.contents⟩

/-- Where a run wrote to, and its report. -/
structure GenerationResult where
  outDir : Path
  report : GenerationReport

variable {m : Type → Type} [Monad m] [Host m]

def Host.notices (ns : List Notice) : m Unit :=
  ns.forM Host.notice

/-- Generates the files of a document below a directory. -/
def Document.generate (doc : Document) (config : GeneratorConfig) (output : Option Path) :
    ExceptT GenerationError m GenerationResult :=
  match output with
  | none => throw .missingOutput
  | some outDir =>
    match doc.fault? with
    | some fault => throw (.invalidDocument fault)
    | none => do
      let graph := doc.relationReport
      Host.notices (m := m) ([.generationStarted outDir.text doc.models.length doc.enums.length
        config.useMultipleFiles]
        ++ (graph.cycle.map fun cycle => Notice.relationCycle cycle config.relationMaxDepth).toList
        ++ doc.fileNotices config)
      let files := (doc.files config).map (·.output)
      let written ← ExceptT.adapt .storage (writeFiles (m := m) outDir files)
      let report := { GenerationReport.ofDocument doc with
        files := written.map (·.text)
        relationCycle := graph.cycle
        selfRelations := graph.selfRelations }
      Host.notices (m := m) (GenerationReport.noticesOf doc
        ++ [.generationFinished report.files.length report.fingerprint])
      return ⟨outDir, report⟩

end SchemaMocks
