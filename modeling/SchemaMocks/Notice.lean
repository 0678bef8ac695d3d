import SchemaMocks.Json.Printer
import SchemaMocks.Text.Case
import SchemaMocks.Text.Diagnostic

set_option autoImplicit false
set_option relaxedAutoImplicit false

/-!
Notices: what a run reports about itself beside its results. Each has a level, a name and values.
-/

namespace SchemaMocks

inductive NoticeLevel where
  | debug
  | info
  | warn
  | error
  deriving DecidableEq

/-- Something that a run reports. -/
inductive Notice where
  | directiveIgnored (field line : String)
  | directivePreviewed (field expression : String)
  | configValueIgnored (key code message : String)
  | depthSkipped (model : String) (value : Json)
  | localeUnsupported (locale : String)
  | samplingStarted (model : String) (count : Nat) (maxDepth : UInt32)
  | generationStarted (outDir : String) (models enums : Nat) (multipleFiles : Bool)
  | relationCycle (models : List String) (maxDepth : UInt32)
  | fileWritten (path : String) (bytes : Nat)
  | generationFinished (files : Nat) (fingerprint : String)
  | runFinished (outDir : String)
  | requestReceived (method : String)
  | requestMalformed
  | generationFailed (message : String)
  deriving DecidableEq

namespace Notice

def level : Notice → NoticeLevel
  | directivePreviewed .. | samplingStarted .. => .debug
  | directiveIgnored .. | configValueIgnored .. | depthSkipped .. | localeUnsupported ..
  | relationCycle .. | requestMalformed => .warn
  | generationFailed .. => .error
  | _ => .info

def name : Notice → String
  | directiveIgnored .. => "annotation_malformed"
  | directivePreviewed .. => "annotation_preview_fallback"
  | configValueIgnored .. | depthSkipped .. => "config_value_malformed"
  | localeUnsupported .. => "locale_unsupported"
  | samplingStarted .. => "sample_started"
  | generationStarted .. => "generation_started"
  | relationCycle .. => "relation_cycle_detected"
  | fileWritten .. => "file_written"
  | generationFinished .. => "generation_finished"
  | runFinished .. => "run_finished"
  | requestReceived .. => "rpc_request"
  | requestMalformed => "rpc_request_malformed"
  | generationFailed .. => "generation_failed"

def message : Notice → String
  | directiveIgnored .. => "ignoring malformed @mock annotation"
  | directivePreviewed .. => "faker expression not evaluated at runtime"
  | configValueIgnored _ _ message => message
  | depthSkipped _ value => "skipping non-integer depth " ++ value.compact
  | localeUnsupported .. => "unsupported mock locale, using en"
  | samplingStarted .. => "sampling mock records"
  | generationStarted .. => "generation started"
  | relationCycle .. => "relation cycle detected; mocks rely on the depth bound"
  | fileWritten .. => "file written"
  | generationFinished .. => "generation finished"
  | runFinished .. => ""
  | requestReceived .. => "request received"
  | requestMalformed => "ignoring malformed request"
  | generationFailed .. => "generation failed"

def values : Notice → List (String × Json)
  | directiveIgnored field line => [("field", .string field), ("line", .string line)]
  | directivePreviewed field expression =>
    [("field", .string field), ("expression", .string expression)]
  | configValueIgnored key code _ => [("key", .string key), ("code", .string code)]
  | depthSkipped model _ => [("key", .string "modelDepths"), ("model", .string model)]
  | localeUnsupported locale => [("locale", .string locale)]
  | samplingStarted model count maxDepth =>
    [("model", .string model), ("count", .nat count), ("max_depth", .nat maxDepth.toNat)]
  | generationStarted outDir models enums multipleFiles =>
    [("out_dir", .string outDir), ("models", .nat models), ("enums", .nat enums),
      ("multiple_files", .bool multipleFiles)]
  | relationCycle models maxDepth =>
    [("models", .string (Text.diagnosticList models)), ("max_depth", .nat maxDepth.toNat)]
  | fileWritten path bytes => [("path", .string path), ("bytes", .nat bytes)]
  | generationFinished files fingerprint =>
    [("files", .nat files), ("fingerprint", .string fingerprint)]
  | runFinished outDir => [("status", .string "success"), ("out_dir", .string outDir)]
  | requestReceived method => [("method", .string method)]
  | requestMalformed => []
  | generationFailed message => [("error", .string message)]

def levelName : NoticeLevel → String
  | .debug => "debug"
  | .info => "info"
  | .warn => "warn"
  | .error => "error"

def toJson (notice : Notice) : Json :=
  .object ([("level", .string (levelName notice.level)), ("event", .string notice.name),
    ("message", .string notice.message)] ++ notice.values)

/-- The line about a notice in a log. -/
def logLine (notice : Notice) : String :=
  (Json.object [("level", .string (Text.asciiUppered (levelName notice.level))),
    ("fields", .object ([("message", .string notice.message), ("event", .string notice.name)]
      ++ notice.values))]).compact

end Notice

end SchemaMocks
