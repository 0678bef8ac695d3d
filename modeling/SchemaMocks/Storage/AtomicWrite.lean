import SchemaMocks.Storage.Host

set_option autoImplicit false
set_option relaxedAutoImplicit false

/-!
Writing files so that each of them is either as it was or complete. The contents go to a file beside
the target first, which is then moved into its place.
-/

namespace SchemaMocks

variable {m : Type → Type} [Monad m] [Host m]

/-- Makes the directory that a file stands in; the directory where one is needs no making. -/
def Path.withParent (path : Path) (act : Path → HostStep m Unit) : ExceptT StorageFault m Unit :=
  match path.parent? with
  | some parent => if parent.text = "" then pure () else ExceptT.mk (act parent)
  | none => pure ()

def Path.temporary? (path : Path) : Option Path :=
  path.fileName?.map fun name => path.withFileName (name ++ ".tmp")

def writeAndMove (temporary path : Path) (data : ByteArray) : ExceptT StorageFault m Unit := do
  ExceptT.mk (Host.openEmpty temporary)
  ExceptT.mk (Host.write temporary data)
  ExceptT.mk (Host.sync temporary)
  ExceptT.mk (Host.rename temporary path)

/-- Removes the file beside the target after a failure; whether that succeeds does not matter. -/
def cleanUp (temporary : Path) : m Unit := do
  let _ ← (Host.remove temporary : HostStep m Unit)
  return ()

/-- Writes a file as a whole. What a failure leaves beside the target is removed. -/
def writeAtomic (path : Path) (data : ByteArray) : ExceptT StorageFault m Unit := do
  path.withParent Host.makeDirectories
  match path.temporary? with
  | none => throw (.noFileName path.text)
  | some temporary => do
    tryCatch (writeAndMove temporary path data) fun fault => do
      cleanUp (m := m) temporary
      throw fault
    path.withParent Host.syncDirectory

/-- A text to be written, and its path below the output directory. -/
structure OutputFile where
  path : String
  contents : String

/-- Writes files below a directory, one after the other, and gives their paths. -/
def writeFiles (dir : Path) : List OutputFile → ExceptT StorageFault m (List Path)
  | [] => return []
  | file :: rest => do
    let path := dir.join file.path
    let data := file.contents.toUTF8
    writeAtomic path data
    (Host.notice (.fileWritten path.text data.size) : m Unit)
    return path :: (← writeFiles dir rest)

end SchemaMocks
