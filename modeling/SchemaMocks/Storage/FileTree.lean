import SchemaMocks.Storage.Fault
import SchemaMocks.Storage.Path

set_option autoImplicit false
set_option relaxedAutoImplicit false

/-!
Trees of files and directories, and the steps that read and change them. A path is followed step by
step from the directory where one is; whatever is stepped through has to be a directory.
-/

namespace SchemaMocks

inductive FileNode where
  | file (contents : ByteArray)
  | directory

instance : DecidableEq FileNode
  | .file a, .file b =>
    decidable_of_iff (a.data = b.data)
      ⟨fun h => congrArg FileNode.file (ByteArray.ext h), fun h => by cases h; rfl⟩
  | .directory, .directory => isTrue rfl
  | .file _, .directory => isFalse (by simp)
  | .directory, .file _ => isFalse (by simp)

abbrev Location := List String

/-- Files and directories by their places. The root itself is always a directory. -/
structure FileTree where
  nodes : List (Location × FileNode)

namespace FileTree

/-- The directory where paths start that do not start at the root. -/
def workingDirectory : Location := ["work"]

/-- The tree that holds nothing but the directory where one is. -/
def empty : FileTree :=
  ⟨[(workingDirectory, .directory)]⟩

def nameLimit : Nat := 255

def pathLimit : Nat := 4095

def node? (tree : FileTree) (at_ : Location) : Option FileNode :=
  if at_ = [] then some .directory else tree.nodes.lookup at_

def erase (tree : FileTree) (at_ : Location) : FileTree :=
  ⟨tree.nodes.filter fun entry => entry.1 ≠ at_⟩

def put (tree : FileTree) (at_ : Location) (node : FileNode) : FileTree :=
  ⟨(at_, node) :: (tree.erase at_).nodes⟩

/-- The place that steps lead to. -/
def walk (tree : FileTree) : Location → List PathStep → Except StorageFault Location
  | here, [] => .ok here
  | here, step :: rest =>
    if tree.node? here ≠ some .directory ∧ step ≠ .root then .error .notADirectory
    else
      match step with
      | .root => walk tree [] rest
      | .here => walk tree here rest
      | .up => walk tree here.dropLast rest
      | .name s =>
        if nameLimit < s.utf8ByteSize then .error .nameTooLong
        else if (tree.node? (here ++ [s])).isNone then .error .notFound
        else walk tree (here ++ [s]) rest

/-- The steps of a path that can be followed at all. -/
def usableSteps (path : Path) : Except StorageFault (List PathStep) :=
  if path.text.toList.contains '\x00' then .error .zeroInPath
  else if path.text = "" then .error .notFound
  else if pathLimit < path.text.utf8ByteSize then .error .nameTooLong
  else .ok path.steps

/-- The place of what is already there. -/
def find (tree : FileTree) (path : Path) : Except StorageFault Location := do
  let steps ← usableSteps path
  let place ← tree.walk workingDirectory steps
  if path.ending = .plain ∨ tree.node? place = some .directory then .ok place
  else .error .notADirectory

/-- The directory and the name of what a path ends in; the name is none where the last step is not a
name. -/
def target (tree : FileTree) (path : Path) : Except StorageFault (Location × Option String) := do
  let steps ← usableSteps path
  let dir ← tree.walk workingDirectory steps.dropLast
  if tree.node? dir ≠ some .directory then .error .notADirectory
  else
    match steps.getLast? with
    | some (.name s) =>
      if nameLimit < s.utf8ByteSize then .error .nameTooLong else .ok (dir, some s)
    | _ => .ok (dir, none)

def isDirectory (tree : FileTree) (path : Path) : Bool :=
  match tree.find path with
  | .ok place => tree.node? place = some .directory
  | .error _ => false

/-- Makes a directory in one that is there. -/
def makeDirectory (tree : FileTree) (path : Path) : Except StorageFault FileTree := do
  let (dir, name) ← tree.target path
  match name with
  | none => .error .alreadyExists
  | some s =>
    if (tree.node? (dir ++ [s])).isSome then .error .alreadyExists
    else .ok (tree.put (dir ++ [s]) .directory)

/-- Makes a directory and the directories that it stands in, given its steps from the last one on. -/
def makeDirectoriesBack (tree : FileTree) : List PathStep → Except StorageFault Unit × FileTree
  | [] => (.ok (), tree)
  | step :: before =>
    let path := Path.ofSteps (step :: before).reverse
    let settled (tree : FileTree) (fault : StorageFault) : Except StorageFault Unit × FileTree :=
      (if tree.isDirectory path then .ok () else .error fault, tree)
    match tree.makeDirectory path with
    | .ok tree => (.ok (), tree)
    | .error .notFound =>
      match makeDirectoriesBack tree before with
      | (.error fault, tree) => (.error fault, tree)
      | (.ok (), tree) =>
        match tree.makeDirectory path with
        | .ok tree => (.ok (), tree)
        | .error fault => settled tree fault
    | .error fault => settled tree fault

def makeDirectories (tree : FileTree) (path : Path) : Except StorageFault Unit × FileTree :=
  makeDirectoriesBack tree path.steps.reverse

/-- Makes an empty file, or empties the one that is there. -/
def openEmpty (tree : FileTree) (path : Path) : Except StorageFault FileTree := do
  let (dir, name) ← tree.target path
  match name with
  | none => .error .isADirectory
  | some s =>
    if path.ending ≠ .plain ∨ tree.node? (dir ++ [s]) = some .directory then .error .isADirectory
    else .ok (tree.put (dir ++ [s]) (.file ByteArray.empty))

/-- Makes an empty file where there is none. -/
def openKept (tree : FileTree) (path : Path) : Except StorageFault FileTree :=
  match tree.find path with
  | .ok place => if tree.node? place = some .directory then .error .isADirectory else .ok tree
  | .error _ => tree.openEmpty path

def append (tree : FileTree) (path : Path) (data : ByteArray) : Except StorageFault FileTree := do
  let place ← tree.find path
  match tree.node? place with
  | some (.file contents) => .ok (tree.put place (.file (contents ++ data)))
  | _ => .error .isADirectory

def read (tree : FileTree) (path : Path) : Except StorageFault ByteArray := do
  let place ← tree.find path
  match tree.node? place with
  | some (.file contents) => .ok contents
  | _ => .error .isADirectory

/-- Moves a file to a path, in place of the file that may stand there. -/
def rename (tree : FileTree) (source destination : Path) : Except StorageFault FileTree := do
  let place ← tree.find source
  let (dir, name) ← tree.target destination
  match tree.node? place, name, destination.ending with
  | some (.file contents), some s, .plain =>
    if tree.node? (dir ++ [s]) = some .directory then .error .isADirectory
    else .ok ((tree.erase place).put (dir ++ [s]) (.file contents))
  | some (.file _), some _, .slash => .error .notADirectory
  | some (.file _), _, _ => do
    let last ← tree.find destination
    if tree.node? last = some .directory then .error .busy else .error .notADirectory
  | _, _, _ => .error .isADirectory

def remove (tree : FileTree) (path : Path) : Except StorageFault FileTree := do
  let place ← tree.find path
  if tree.node? place = some .directory then .error .isADirectory else .ok (tree.erase place)

end FileTree

end SchemaMocks
