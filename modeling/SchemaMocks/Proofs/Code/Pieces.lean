import Mathlib.Data.List.SplitBy
import SchemaMocks.TypeScript.SourceFile

set_option autoImplicit false
set_option relaxedAutoImplicit false

/-!
Generated code in pieces. A piece is plain text or a name, and a name says what it is there for:
whether it is declared, imported, read at once, read when a function is called, or part of a type.
Sections are cut into statements, the statements into lines and the lines into pieces, and together
the pieces make up the text of the section; so what holds of the names of the pieces holds of the
names in the text.
-/

namespace SchemaMocks.TypeScript

/-- What a name is there for where it stands in generated code. -/
inductive NameRole where
  /-- A constant of the name is declared and exported. -/
  | constant
  /-- A type of the name is declared and exported. -/
  | type
  | imported
  /-- What is imported under the name is exported again. -/
  | reexported
  /-- The value is read as soon as the statement is reached. -/
  | readNow
  /-- The value is read when a function is called. -/
  | readLater
  /-- A type is meant. -/
  | inType
  /-- The type of a constant is meant. -/
  | typeOf
  /-- The name belongs to code that the documentation of a field supplies. -/
  | supplied
  deriving DecidableEq

inductive Piece where
  | plain (text : String)
  | name (role : NameRole) (text : String)
  deriving DecidableEq

def Piece.text : Piece → String
  | plain text => text
  | name _ text => text

abbrev Line := List Piece

def Line.text : Line → String
  | [] => ""
  | piece :: rest => piece.text ++ Line.text rest

/-- Lines that are run in one go. -/
structure Statement where
  lines : List Line
  deriving DecidableEq

def Statement.pieces (s : Statement) : List Piece :=
  s.lines.flatten

/-- The names that stand in a role, in the order of the text. -/
def namesAs (role : NameRole) (pieces : List Piece) : List String :=
  pieces.filterMap fun
    | .plain _ => none
    | .name r text => if r = role then some text else none

section Lines

@[simp] theorem Line.text_nil : Line.text [] = "" := rfl

@[simp] private theorem Line.text_cons (piece : Piece) (rest : Line) :
    Line.text (piece :: rest) = piece.text ++ Line.text rest := rfl

@[simp] theorem Line.text_append (front back : Line) :
    Line.text (front ++ back) = Line.text front ++ Line.text back := by
  induction front with
  | nil => simp
  | cons piece rest ih => rw [List.cons_append, Line.text_cons, Line.text_cons, ih, String.append_assoc]

@[simp] theorem Piece.text_plain (text : String) : (plain text).text = text := rfl

@[simp] theorem Piece.text_name (role : NameRole) (text : String) : (name role text).text = text :=
  rfl

variable {role : NameRole} {name : String} {pieces front back : List Piece}

theorem mem_namesAs : name ∈ namesAs role pieces ↔ Piece.name role name ∈ pieces := by
  simp only [namesAs, List.mem_filterMap]
  constructor
  · rintro ⟨_ | ⟨r, text⟩, hpiece, hname⟩
    · cases hname
    · simp only [Option.ite_none_right_eq_some, Option.some.injEq] at hname
      obtain ⟨rfl, rfl⟩ := hname
      exact hpiece
  · exact fun h => ⟨_, h, by simp⟩

@[simp] theorem namesAs_append :
    namesAs role (front ++ back) = namesAs role front ++ namesAs role back :=
  List.filterMap_append

theorem namesAs_eq_nil (h : ∀ name, Piece.name role name ∉ pieces) : namesAs role pieces = [] :=
  List.eq_nil_iff_forall_not_mem.2 fun name hname => h name (mem_namesAs.1 hname)

end Lines

section Words

def isWordChar (c : Char) : Bool :=
  c.isAlphanum || c == '_' || c == '$'

/-- The longest runs of characters that all belong to words or all do not. -/
def wordRuns (text : String) : List (List Char) :=
  text.toList.splitBy fun a b => isWordChar a == isWordChar b

/-- A run of code as a piece. The data library goes by one word everywhere; other words are names
only where the documentation supplies the code. -/
def Piece.ofRun (isSupplied : Bool) (run : List Char) : Piece :=
  let word := String.ofList run
  if word = "faker" then name .readLater word
  else if isSupplied && run.all isWordChar then name .supplied word
  else plain word

/-- Code in pieces, word by word. -/
def wordPieces (isSupplied : Bool) (code : String) : Line :=
  (wordRuns code).map (Piece.ofRun isSupplied)

private theorem Piece.text_ofRun (isSupplied : Bool) (run : List Char) :
    (ofRun isSupplied run).text = String.ofList run := by
  unfold ofRun
  dsimp only
  split
  · rfl
  · split <;> rfl

@[simp] theorem text_wordPieces (isSupplied : Bool) (code : String) :
    Line.text (wordPieces isSupplied code) = code := by
  have hruns (runs : List (List Char)) :
      Line.text (runs.map (Piece.ofRun isSupplied)) = String.ofList runs.flatten := by
    induction runs with
    | nil => rfl
    | cons run rest ih =>
      rw [List.map_cons, Line.text_cons, ih, Piece.text_ofRun, List.flatten_cons,
        String.ofList_append]
  rw [wordPieces, hruns, wordRuns, List.flatten_splitBy, String.ofList_toList]

theorem of_name_mem_wordPieces {isSupplied : Bool} {code : String} {role : NameRole} {name : String}
    (h : Piece.name role name ∈ wordPieces isSupplied code) :
    role = .readLater ∧ name = "faker" ∨ role = .supplied ∧ isSupplied = true := by
  obtain ⟨run, -, hrun⟩ := List.mem_map.1 h
  unfold Piece.ofRun at hrun
  dsimp only at hrun
  split at hrun
  · rename_i hfaker
    cases hrun
    exact Or.inl ⟨rfl, hfaker⟩
  · split at hrun
    · rename_i hsupplied
      cases hrun
      exact Or.inr ⟨rfl, (Bool.and_eq_true_iff.1 hsupplied).1⟩
    · cases hrun

end Words

end SchemaMocks.TypeScript
