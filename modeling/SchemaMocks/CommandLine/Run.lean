import SchemaMocks.CommandLine.Arguments
import SchemaMocks.Config.Schema
import SchemaMocks.Mock.Sampler
import SchemaMocks.Request.Serve

set_option autoImplicit false
set_option relaxedAutoImplicit false

/-!
Running a command. It prints JSON text, or answers requests, and may fail.
-/

namespace SchemaMocks

inductive CommandError where
  | input (error : InputError)
  | settings (error : SettingsError)
  | generation (error : GenerationError)
  | sampling (failure : MockFailure)
  | storage (fault : StorageFault)

def CommandError.message : CommandError → String
  | input error => error.message
  | settings error => "config error: " ++ error.message
  | generation error => "generation error: " ++ error.message
  | sampling failure => "generation error: " ++ failure.message
  | storage fault => "io error: " ++ fault.message

/-- The code that the program ends with, none where it is stopped on the spot. -/
def CommandError.exitCode : CommandError → Option UInt32
  | sampling failure => if failure.stopsProgram then none else some 1
  | _ => some 1

/-- What came of a command: the printed text, the answers, and the failure if there was one. -/
structure CommandOutcome where
  output : String
  responses : List Response
  failure : Option CommandError

def CommandOutcome.ofPrinting : Except CommandError String → CommandOutcome
  | .ok output => ⟨output, [], none⟩
  | .error e => ⟨"", [], some e⟩

def printed (j : Json) : String :=
  j.indented ++ "\n"

variable {m : Type → Type} [Monad m] [Host m]

namespace CommandSource

def job (source : CommandSource) (output : Option Path) : ExceptT CommandError m GenerationJob := do
  let input ← ExceptT.adapt .input (loadInput (m := m) source.input)
  let settings ← ExceptT.adapt .settings (loadSettings (m := m) source.settings)
  return input.job settings source.assignments output

end CommandSource

namespace Command

/-- Generates the files of a source and prints the report. -/
def generated (source : CommandSource) (output : Option Path) :
    ExceptT CommandError m String := do
  let job ← source.job (m := m) output
  let result ← ExceptT.adapt .generation (job.run (m := m))
  (Host.notice (.runFinished result.outDir.text) : m Unit)
  return printed result.report.toJson

/-- Prints records of a model; the seed goes before the one of the configuration. -/
def sampled (resources : MockResources) (source : CommandSource) (model : String) (count : Nat)
    (seed : Option UInt64) : ExceptT CommandError m String := do
  let job ← source.job (m := m) none
  Host.notices (m := m) job.parsed.notices
  let config := job.parsed.config
  let seed := (seed.orElse fun _ => config.mockSeed).getD 0
  Host.notices (m := m) (MockLocale.noticesOf config.mockDataLocale)
  let (records, state) :=
    ((Sampler.ofConfig resources job.document config).sample model count).run
      (SamplerState.ofSeed seed)
  Host.notices (m := m) state.notices
  match records with
  | .ok records => return printed (.array records)
  | .error failure => throw (.sampling failure)

/-- Opens the log of the work on requests, where there is one. -/
def openLog (log : Option Path) : ExceptT CommandError m Unit :=
  match log with
  | none => return ()
  | some path => ExceptT.adapt .storage (ExceptT.mk (Host.openLog (m := m) path))

/-- Answers requests, after the log is open. -/
def served (log : Option Path) (lines : List (Option String)) : m CommandOutcome := do
  match ← (openLog (m := m) log).run with
  | .error e => return ⟨"", [], some e⟩
  | .ok () =>
    let (responses, fault) ← Request.serve lines
    return ⟨"", responses, fault.map .storage⟩

/-- Runs a command; `lines` are the requests to be answered. -/
def run (resources : MockResources) (lines : List (Option String)) : Command → m CommandOutcome
  | generate source output => return .ofPrinting (← (generated source output).run)
  | sample source model count seed =>
    return .ofPrinting (← (sampled resources source model count seed).run)
  | analyze fields =>
    return .ofPrinting (.ok (printed (.array (fields.map fun f => (FieldAnalysis.ofName f).toJson))))
  | configSchema => return .ofPrinting (.ok (printed ConfigSchema.document))
  | serve log => served log lines

end Command

end SchemaMocks
