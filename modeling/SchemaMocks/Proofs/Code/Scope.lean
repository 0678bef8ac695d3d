import SchemaMocks.Proofs.Code.Sections

set_option autoImplicit false
set_option relaxedAutoImplicit false

/-!
Scopes of generated code. A file provides what it imports, its constants and its types, and covers
code whose names are all provided. Statements load in order if each finds what it reads at once among
what is known before it.
-/

namespace SchemaMocks.TypeScript

def piecesOf (statements : List Statement) : List Piece :=
  statements.flatMap Statement.pieces

/-- The names that code may refer to. -/
structure Scope where
  values : List String
  types : List String

namespace Scope

def Provides (scope : Scope) (name : String) : NameRole → Prop
  | .readNow | .readLater | .typeOf | .reexported => name ∈ scope.values
  | .inType => name ∈ scope.types
  | .constant | .type | .imported | .supplied => True

def Covers (scope : Scope) (pieces : List Piece) : Prop :=
  ∀ role name, Piece.name role name ∈ pieces → scope.Provides name role

end Scope

/-- What is imported may stand for a value and for a type. -/
def SourceFile.scope (file : SourceFile) : Scope where
  values := namesAs .imported file.pieces ++ namesAs .constant file.pieces
  types := namesAs .imported file.pieces ++ namesAs .type file.pieces

/-- Each statement reads at once only what is known before, or a constant of an earlier one. -/
def LoadsFrom (known : List String) : List Statement → Prop
  | [] => True
  | s :: rest =>
    (∀ name ∈ namesAs .readNow s.pieces, name ∈ known) ∧
      LoadsFrom (known ++ namesAs .constant s.pieces) rest

section Names

variable {α : Type} {role : NameRole}

@[simp] theorem namesAs_nil : namesAs role [] = [] := rfl

@[simp] theorem namesAs_plain (text : String) (rest : List Piece) :
    namesAs role (.plain text :: rest) = namesAs role rest := rfl

@[simp] theorem namesAs_name (r : NameRole) (name : String) (rest : List Piece) :
    namesAs role (.name r name :: rest) =
      if r = role then name :: namesAs role rest else namesAs role rest := by
  unfold namesAs
  split <;> simp [*]

theorem namesAs_flatMap (f : α → List Piece) (items : List α) :
    namesAs role (items.flatMap f) = items.flatMap fun item => namesAs role (f item) :=
  List.filterMap_flatMap ..

@[simp] theorem piecesOf_nil : piecesOf [] = [] := rfl

@[simp] theorem piecesOf_cons (s : Statement) (rest : List Statement) :
    piecesOf (s :: rest) = s.pieces ++ piecesOf rest := rfl

@[simp] theorem piecesOf_append (front back : List Statement) :
    piecesOf (front ++ back) = piecesOf front ++ piecesOf back :=
  List.flatMap_append

@[simp] theorem Statement.pieces_mk (lines : List Line) : (mk lines).pieces = lines.flatten := rfl

def Section.pieces (s : Section) : List Piece :=
  piecesOf s.statements

theorem SourceFile.pieces_eq (file : SourceFile) :
    file.pieces = file.sections.flatMap Section.pieces := by
  rw [SourceFile.pieces, SourceFile.statements, List.flatMap_assoc]
  rfl

end Names

section Covers

variable {α : Type} {scope larger : Scope} {front back : List Piece}

@[simp] private theorem Scope.covers_nil : scope.Covers [] := by
  simp [Scope.Covers]

@[simp] private theorem Scope.covers_plain (text : String) (rest : List Piece) :
    scope.Covers (.plain text :: rest) ↔ scope.Covers rest := by
  simp [Scope.Covers]

@[simp] private theorem Scope.covers_name (role : NameRole) (name : String) (rest : List Piece) :
    scope.Covers (.name role name :: rest) ↔ scope.Provides name role ∧ scope.Covers rest := by
  simp only [Scope.Covers, List.mem_cons, Piece.name.injEq]
  constructor
  · exact fun h => ⟨h _ _ (Or.inl ⟨rfl, rfl⟩), fun r n hmem => h r n (Or.inr hmem)⟩
  · rintro ⟨hname, hrest⟩ r n (⟨rfl, rfl⟩ | hmem)
    · exact hname
    · exact hrest r n hmem

@[simp] theorem Scope.covers_append :
    scope.Covers (front ++ back) ↔ scope.Covers front ∧ scope.Covers back := by
  simp only [Scope.Covers, List.mem_append, or_imp, forall_and]

theorem Scope.covers_flatten (lines : List Line) :
    scope.Covers lines.flatten ↔ ∀ line ∈ lines, scope.Covers line := by
  induction lines with
  | nil => simp
  | cons line rest ih => simp [ih]

theorem Scope.covers_flatMap (f : α → List Piece) (items : List α) :
    scope.Covers (items.flatMap f) ↔ ∀ item ∈ items, scope.Covers (f item) := by
  rw [List.flatMap, covers_flatten, List.forall_mem_map]

end Covers

section Loading

variable {known more : List String} {front back : List Statement}

@[simp] private theorem loadsFrom_nil : LoadsFrom known [] := trivial

theorem LoadsFrom.mono (hknown : known ⊆ more) {statements : List Statement}
    (h : LoadsFrom known statements) : LoadsFrom more statements := by
  induction statements generalizing known more with
  | nil => trivial
  | cons s rest ih =>
    exact ⟨fun name hname => hknown (h.1 name hname),
      ih (List.append_subset.2 ⟨List.subset_append_of_subset_left _ hknown,
        List.subset_append_right _ _⟩) h.2⟩

theorem loadsFrom_append : LoadsFrom known (front ++ back) ↔
    LoadsFrom known front ∧ LoadsFrom (known ++ namesAs .constant (piecesOf front)) back := by
  induction front generalizing known with
  | nil => simp
  | cons s rest ih =>
    rw [List.cons_append, LoadsFrom, LoadsFrom, ih, piecesOf_cons, namesAs_append, and_assoc,
      List.append_assoc]

theorem loadsFrom_of_readNow_eq_nil {statements : List Statement}
    (h : namesAs .readNow (piecesOf statements) = []) : LoadsFrom known statements := by
  induction statements generalizing known with
  | nil => trivial
  | cons s rest ih =>
    rw [piecesOf_cons, namesAs_append, List.append_eq_nil_iff] at h
    exact ⟨by simp [h.1], ih h.2⟩

theorem LoadsFrom.read_before {before after : List Statement} {s : Statement} {name : String}
    (h : LoadsFrom known (before ++ s :: after)) (hname : name ∈ namesAs .readNow s.pieces) :
    name ∈ known ∨ name ∈ namesAs .constant (piecesOf before) :=
  List.mem_append.1 ((loadsFrom_append.1 h).2.1 name hname)

end Loading

end SchemaMocks.TypeScript
