import SchemaMocks.CommandLine.Help
import SchemaMocks.CommandLine.Run
import SchemaMocks.Mock.Vocabulary

set_option autoImplicit false
set_option relaxedAutoImplicit false

/-!
The program: arguments, files, and the standard streams.
-/

namespace SchemaMocks

inductive NoticeTarget where
  | nowhere
  | standardError
  | file (path : Path)

abbrev Station := ReaderT (IO.Ref NoticeTarget) IO

namespace Station

/-- The fault that a failure of the system is. -/
def faultOf : IO.Error → StorageFault
  | .noFileOrDirectory .. => .notFound
  | .alreadyExists .. => .alreadyExists
  | e => .other (toString e)

def step {α : Type} (act : IO α) : HostStep Station α := fun _ => do
  match ← act.toBaseIO with
  | .ok x => return .ok x
  | .error e => return .error (faultOf e)

def append (path : Path) (data : ByteArray) : IO Unit := do
  let file ← IO.FS.Handle.mk path.text .append
  file.write data
  file.flush

def takeNotice (notice : Notice) : Station Unit := fun target => do
  if notice.level = .debug then return ()
  match ← target.get with
  | .nowhere => return ()
  | .standardError => IO.eprintln notice.logLine
  | .file path => append path (notice.logLine ++ "\n").toUTF8

instance : Host Station where
  makeDirectories path := step (IO.FS.createDirAll path.text)
  openEmpty path := step do
    let file ← IO.FS.Handle.mk path.text .write
    file.flush
  write path data := step (append path data)
  sync _ := step (return ())
  rename source destination := step (IO.FS.rename source.text destination.text)
  remove path := step (IO.FS.removeFile path.text)
  syncDirectory _ := step (return ())
  read path := step (IO.FS.readBinFile path.text)
  openLog path := fun target => do
    let opened ← step (append path ByteArray.empty) target
    if opened matches .ok _ then target.set (.file path)
    return opened
  notice := takeNotice

/-- The bytes of the next line with its end, after those that were read already. -/
partial def nextLine (input : IO.FS.Stream) (line : ByteArray) : IO ByteArray := do
  let next ← input.read 1
  if next.isEmpty then return line
  if next.data.contains 10 then return line ++ next
  nextLine input (line ++ next)

/-- Answers the lines of standard input as they come. -/
partial def answerLines (input : IO.FS.Stream) : Station (Option CommandError) := do
  let bytes ← nextLine input ByteArray.empty
  if bytes.isEmpty then return none
  let (responses, fault) ← Request.serve (m := Station) (Request.linesOf bytes)
  for response in responses do
    IO.eprint response.line
  if let some fault := fault then return some (.storage fault)
  answerLines input

/-- Runs a command; requests are answered as they come. -/
def run (command : Command) : Station CommandOutcome := do
  let outcome ← command.run (m := Station) .standard []
  match command, outcome.failure with
  | .serve _, none => return { outcome with failure := ← answerLines (← IO.getStdin) }
  | _, _ => return outcome

end Station

def stoppedCode : UInt32 := 134

def Command.noticeTarget : Command → NoticeTarget
  | .generate .. | .sample .. => .standardError
  | _ => .nowhere

/-- Runs what the arguments ask for, and gives the exit code. -/
def runArguments (args : List String) : IO UInt32 := do
  match Invocation.ofArguments args with
  | .error e =>
    IO.eprintln ("error: " ++ e.message)
    return 2
  | .ok .version =>
    IO.print versionText
    return 0
  | .ok (.help verb) =>
    IO.print ((verb.map Verb.helpText).getD helpText)
    return 0
  | .ok (.run command) =>
    let target ← IO.mkRef command.noticeTarget
    let outcome ← Station.run command target
    IO.print outcome.output
    match outcome.failure with
    | none => return 0
    | some e =>
      IO.eprintln ("Error: " ++ e.message)
      return e.exitCode.getD stoppedCode

end SchemaMocks

def main (args : List String) : IO UInt32 :=
  SchemaMocks.runArguments args
