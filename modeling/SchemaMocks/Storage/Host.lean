import SchemaMocks.Notice
import SchemaMocks.Storage.FileTree

set_option autoImplicit false
set_option relaxedAutoImplicit false

/-!
What a run needs around it: stored files, and somebody who takes notice. A host offers the single
steps from which everything else is made. A session is a host of its own, a tree of files in which
each step may be made to fail.
-/

namespace SchemaMocks

abbrev HostStep (m : Type → Type) (α : Type) := m (Except StorageFault α)

/-- The single steps on files, and the taking of notice. -/
class Host (m : Type → Type) where
  /-- Makes a directory and those that it stands in. -/
  makeDirectories : Path → HostStep m Unit
  /-- Makes an empty file or empties one. -/
  openEmpty : Path → HostStep m Unit
  write : Path → ByteArray → HostStep m Unit
  /-- Waits until the contents of a file are stored. -/
  sync : Path → HostStep m Unit
  /-- Moves a file, in place of one that may stand there. -/
  rename : Path → Path → HostStep m Unit
  remove : Path → HostStep m Unit
  /-- Waits until the entries of a directory are stored. -/
  syncDirectory : Path → HostStep m Unit
  read : Path → HostStep m ByteArray
  /-- Appends everything worth a line from now on to a file. -/
  openLog : Path → HostStep m Unit
  notice : Notice → m Unit

/-- A fault that a step meets, and how far the step gets before it fails: so many bytes of a write
are stored, and directories are made for so many steps of a path. -/
structure StepFault where
  fault : StorageFault
  progress : Nat
  deriving DecidableEq

structure Session where
  tree : FileTree
  /-- What the steps to come meet, one after the other; after the last one they meet no fault. -/
  faults : List (Option StepFault)
  /-- What was noticed, the latest first. -/
  noticed : List Notice
  /-- Where lines about what is noticed go. -/
  log : Option Path

namespace Session

/-- A session on a tree in which no step is made to fail. -/
def ofTree (tree : FileTree) : Session :=
  ⟨tree, [], [], none⟩

/-- A step that changes the tree; `broken` is what is left of the tree where the step fails. -/
def step {α : Type} (act : FileTree → Except StorageFault α × FileTree)
    (broken : Nat → FileTree → FileTree) : HostStep (StateM Session) α :=
  fun s =>
    match s.faults with
    | some f :: faults => (.error f.fault, { s with tree := broken f.progress s.tree, faults })
    | _ =>
      let (result, tree) := act s.tree
      (result, { s with tree, faults := s.faults.tail })

/-- The outcome of a change, and the tree after it: the old one where the change fails. -/
def changed (tree : FileTree) : Except StorageFault FileTree → Except StorageFault Unit × FileTree
  | .ok tree => (.ok (), tree)
  | .error fault => (.error fault, tree)

def change (act : FileTree → Except StorageFault FileTree) : HostStep (StateM Session) Unit :=
  step (fun tree => changed tree (act tree)) fun _ tree => tree

def cutWrite (path : Path) (data : ByteArray) (written : Nat) (tree : FileTree) : FileTree :=
  (changed tree (tree.append path (data.extract 0 written))).2

def cutDirectories (path : Path) (made : Nat) (tree : FileTree) : FileTree :=
  (tree.makeDirectories (Path.ofSteps (path.steps.take made))).2

/-- Takes notice, also in the log where there is one. -/
def takeNotice (n : Notice) (s : Session) : Session :=
  let s := { s with noticed := n :: s.noticed }
  match s.log with
  | some path =>
    if n.level = .debug then s
    else { s with tree := (changed s.tree (s.tree.append path (n.logLine ++ "\n").toUTF8)).2 }
  | none => s

instance : Host (StateM Session) where
  makeDirectories path := step (fun tree => tree.makeDirectories path) (cutDirectories path)
  openEmpty path := change fun tree => tree.openEmpty path
  write path data := step (fun tree => changed tree (tree.append path data)) (cutWrite path data)
  sync _ := change .ok
  rename source destination := change fun tree => tree.rename source destination
  remove path := change fun tree => tree.remove path
  syncDirectory path := step (fun tree => ((tree.find path).map fun _ => (), tree)) fun _ tree => tree
  read path := step (fun tree => (tree.read path, tree)) fun _ tree => tree
  openLog path := fun s =>
    match s.tree.openKept path with
    | .ok tree => (.ok (), { s with tree, log := some path })
    | .error fault => (.error fault, s)
  notice n := fun s => ((), takeNotice n s)

def notices (s : Session) : List Notice :=
  s.noticed.reverse

end Session

end SchemaMocks
