import SchemaMocks.Generator.Input
import SchemaMocks.Request.Reader

set_option autoImplicit false
set_option relaxedAutoImplicit false

/-!
Answering requests, one on a line. A request may ask for the manifest, which says what this generator
is called, or for a generation. Blank lines and lines that are no requests get no answer.
-/

namespace SchemaMocks

def manifest : Json :=
  .object [
    ("defaultOutput", .string "./generated"),
    ("prettyName", .string "Zod Schemas and Mock Factories"),
    ("requiresGenerators", .array [])]

inductive RequestFailure where
  | decode (error : DecodeError)
  | generation (error : GenerationError)

def RequestFailure.message : RequestFailure → String
  | decode error => "json error: " ++ error.message
  | generation error => "generation error: " ++ error.message

def Request.job (params : Json) : Except DecodeError GenerationJob :=
  (GeneratorOptions.decode params).map GeneratorOptions.job

variable {m : Type → Type} [Monad m] [Host m]

namespace Request

def generate (params : Json) : ExceptT RequestFailure m Unit := do
  let job ← ExceptT.mk (pure ((job params).mapError .decode))
  let _ ← ExceptT.adapt .generation (job.run (m := m))
  return ()

def outcome (r : Request) : m (Except ResponseError Json) :=
  match r.method with
  | "getManifest" => return .ok (.object [("manifest", manifest)])
  | "generate" => do
    match ← (generate r.params).run with
    | .ok () => return .ok .null
    | .error failure =>
      Host.notice (.generationFailed failure.message)
      return .error ⟨ResponseError.generationCode, failure.message⟩
  | other => return .error ⟨ResponseError.methodCode, "method not found: " ++ other⟩

def answer (r : Request) : m Response := do
  return ⟨r.id, ← r.outcome⟩

/-- The answer to a line, where it holds a request. -/
def answerLine (line : String) : m (Option Response) :=
  match Line.ofText line with
  | .blank => return none
  | .malformed => do
    Host.notice .requestMalformed
    return none
  | .request r => do
    Host.notice (.requestReceived r.method)
    return some (← r.answer)

/-- Answers lines one after the other. A line that is no text ends the work. -/
def serve : List (Option String) → m (List Response × Option StorageFault)
  | [] => return ([], none)
  | none :: _ => return ([], some .notText)
  | some line :: rest => do
    let response ← answerLine line
    let (responses, fault) ← serve rest
    return (response.toList ++ responses, fault)

def byteLines : List UInt8 → List (List UInt8)
  | [] => [[]]
  | b :: rest =>
    if b = 10 then [] :: byteLines rest
    else
      match byteLines rest with
      | [] => [[b]]
      | line :: lines => (b :: line) :: lines

/-- The text of a line; a carriage return at its end does not belong to it. -/
def lineText? (bytes : List UInt8) : Option String :=
  let bytes := if bytes.getLast? = some 13 then bytes.dropLast else bytes
  String.fromUTF8? ⟨bytes.toArray⟩

/-- The lines of some bytes; after the last line feed there is one only if it is not empty. -/
def linesOf (bytes : ByteArray) : List (Option String) :=
  let lines := byteLines bytes.toList
  let lines := if lines.getLast? = some [] then lines.dropLast else lines
  lines.map lineText?

end Request

end SchemaMocks
