import SchemaMocks.Text.Search

set_option autoImplicit false
set_option relaxedAutoImplicit false

/-!
Paths of files. A path is a text whose steps stand between slashes; empty steps do not count, and a
single dot counts only in front. How a text ends matters where a file is moved to it.
-/

namespace SchemaMocks

inductive PathStep where
  | root
  | here
  | up
  | name (s : String)
  deriving DecidableEq

/-- How the text of a path ends after its last step. -/
inductive PathEnding where
  | plain
  | slash
  | dot
  deriving DecidableEq

structure Path where
  text : String
  deriving DecidableEq

namespace PathStep

/-- The step that a part of a path is; a dot or nothing is none. -/
def ofPart? (part : String) : Option PathStep :=
  if part = "" ∨ part = "." then none
  else if part = ".." then some up
  else some (name part)

def text : PathStep → String
  | root => ""
  | here => "."
  | up => ".."
  | name s => s

end PathStep

namespace Path

def textParts (path : Path) : List String :=
  (Text.pieces '/' path.text.toList).map String.ofList

def isAbsolute (path : Path) : Bool :=
  Text.startsWith path.text "/"

def steps (path : Path) : List PathStep :=
  let front : List PathStep :=
    if path.isAbsolute then [.root]
    else if path.textParts.head? = some "." then [.here]
    else []
  front ++ path.textParts.filterMap PathStep.ofPart?

def ending (path : Path) : PathEnding :=
  match (path.textParts.reverse.dropWhile (· = "")), path.textParts.getLast? with
  | "." :: _ :: _, _ => .dot
  | _ :: _, some "" => .slash
  | _, _ => .plain

def ofSteps : List PathStep → Path
  | [.root] => ⟨"/"⟩
  | steps => ⟨Text.joined "/" (steps.map PathStep.text)⟩

/-- The path without its last step; the root and the empty path have none. -/
def parent? (path : Path) : Option Path :=
  match path.steps.getLast? with
  | none | some .root => none
  | some _ => some (ofSteps path.steps.dropLast)

def fileName? (path : Path) : Option String :=
  match path.steps.getLast? with
  | some (.name s) => some s
  | _ => none

def withFileName (path : Path) (name : String) : Path :=
  ofSteps (path.steps.dropLast ++ [.name name])

/-- The path of a file below a directory; the empty path is the directory where one is. -/
def join (dir : Path) (file : String) : Path :=
  if Text.startsWith file "/" then ⟨file⟩
  else if dir.text = "" ∨ Text.endsWith dir.text "/" then ⟨dir.text ++ file⟩
  else ⟨dir.text ++ "/" ++ file⟩

/-- Takes one step by the letter of a path: a name is added, and a step up undoes the last name. -/
def lexicalStep (names : List String) : PathStep → List String
  | .root => []
  | .here => names
  | .up => names.dropLast
  | .name s => names ++ [s]

/-- The names that remain of a path when every step up has undone the name before it. -/
def lexical (path : Path) : List String :=
  path.steps.foldl lexicalStep []

end Path

end SchemaMocks
