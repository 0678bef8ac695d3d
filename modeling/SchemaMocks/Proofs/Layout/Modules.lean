import SchemaMocks.Proofs.Layout.Paths
import SchemaMocks.Proofs.Text.Identifier
import SchemaMocks.Storage.Path

set_option autoImplicit false
set_option relaxedAutoImplicit false

/-!
The files that modules stand for. A module that a file names by a relative path is looked for from
the folder of the file, with the ending of source files; the steps are taken by the letter of the
path.
-/

namespace SchemaMocks

namespace Text

theorem pieces_of_notMem {sep : Char} {cs : List Char} (h : sep ∉ cs) : pieces sep cs = [cs] := by
  induction cs with
  | nil => rfl
  | cons c rest ih =>
    simp only [List.mem_cons, not_or] at h
    obtain ⟨hc, hrest⟩ := h
    rw [pieces, if_neg (Ne.symm hc), ih hrest]

theorem pieces_append {sep : Char} {front : List Char} (h : sep ∉ front) (rest : List Char) :
    pieces sep (front ++ sep :: rest) = front :: pieces sep rest := by
  induction front with
  | nil => simp [pieces]
  | cons c front ih =>
    simp only [List.mem_cons, not_or] at h
    obtain ⟨hc, hfront⟩ := h
    rw [List.cons_append, pieces, if_neg (Ne.symm hc), ih hfront]

end Text

namespace Path

theorem textParts_joined {parts : List String} (hparts : ∀ part ∈ parts, '/' ∉ part.toList)
    (hne : parts ≠ []) : (Path.mk (Text.joined "/" parts)).textParts = parts := by
  have hpieces : Text.pieces '/' (Text.joined "/" parts).toList = parts.map String.toList := by
    induction parts with
    | nil => exact absurd rfl hne
    | cons part rest ih =>
      obtain ⟨hpart, hrest⟩ := List.forall_mem_cons.1 hparts
      cases rest with
      | nil => simpa [Text.joined] using Text.pieces_of_notMem hpart
      | cons next rest =>
        have htext : (Text.joined "/" (part :: next :: rest)).toList =
            part.toList ++ '/' :: (Text.joined "/" (next :: rest)).toList := by
          simp [Text.joined]
        rw [htext, Text.pieces_append hpart, ih hrest (List.cons_ne_nil _ _)]
        rfl
  rw [textParts, hpieces, List.map_map]
  simp [Function.comp_def]

theorem head?_textParts_of_isAbsolute {path : Path} (h : path.isAbsolute = true) :
    path.textParts.head? = some "" := by
  unfold isAbsolute Text.startsWith at h
  unfold textParts
  cases hchars : path.text.toList with
  | nil =>
    rw [hchars] at h
    cases h
  | cons c rest =>
    have hc : '/' = c := by simpa [hchars] using h
    subst hc
    rfl

theorem steps_joined {first : String} {rest : List String}
    (hparts : ∀ part ∈ first :: rest, '/' ∉ part.toList) (hfirst : first ≠ "") :
    (Path.mk (Text.joined "/" (first :: rest))).steps =
      (if first = "." then [.here] else []) ++ (first :: rest).filterMap PathStep.ofPart? := by
  have htext := textParts_joined hparts (List.cons_ne_nil _ _)
  have habsolute : (Path.mk (Text.joined "/" (first :: rest))).isAbsolute = false := by
    refine Bool.eq_false_iff.2 fun h => hfirst ?_
    simpa [htext] using head?_textParts_of_isAbsolute h
  simp [steps, habsolute, htext]

theorem ofPart?_source (stem : String) :
    PathStep.ofPart? (stem ++ ".ts") = some (.name (stem ++ ".ts")) := by
  have hlast : (stem ++ ".ts").toList.getLast? = some 's' := by simp
  have hne (other : String) (hother : other.toList.getLast? ≠ some 's') : stem ++ ".ts" ≠ other := by
    rintro rfl
    exact hother hlast
  rw [PathStep.ofPart?, if_neg (not_or.2 ⟨hne _ (by decide), hne _ (by decide)⟩),
    if_neg (hne _ (by decide))]

end Path

namespace TypeScript

def modulePath (importer module : String) : String :=
  let folder := (Path.mk importer).steps.dropLast
  Text.joined "/" ((folder ++ (Path.mk (module ++ ".ts")).steps).foldl Path.lexicalStep [])

def isRelative (module : String) : Bool :=
  Text.startsWith module "./" || Text.startsWith module "../"

section Resolution

variable {folder file stem : String}

def IsFolder (folder : String) : Prop :=
  '/' ∉ folder.toList ∧ PathStep.ofPart? folder = some (.name folder)

theorem IsFolder.ne_empty (h : IsFolder folder) : folder ≠ "" ∧ folder ≠ "." := by
  constructor <;>
    · rintro rfl
      cases h.2

private theorem steps_inFolder (hfolder : IsFolder folder) (hfile : '/' ∉ file.toList) :
    (Path.mk (folder ++ "/" ++ file ++ ".ts")).steps = [.name folder, .name (file ++ ".ts")] := by
  have htext : folder ++ "/" ++ file ++ ".ts" = Text.joined "/" [folder, file ++ ".ts"] := by
    simp [Text.joined, String.append_assoc]
  have hparts : ∀ part ∈ [folder, file ++ ".ts"], '/' ∉ part.toList := by
    simp [hfolder.1, hfile]
  rw [htext, Path.steps_joined hparts hfolder.ne_empty.1, if_neg hfolder.ne_empty.2]
  simp [hfolder.2, Path.ofPart?_source]

private theorem ofPart?_dots :
    PathStep.ofPart? "." = none ∧ PathStep.ofPart? ".." = some .up := by
  decide

theorem modulePath_sibling (hfolder : IsFolder folder) (hfile : '/' ∉ file.toList)
    (hstem : '/' ∉ stem.toList) :
    modulePath (folder ++ "/" ++ file ++ ".ts") ("./" ++ stem) =
      folder ++ "/" ++ stem ++ ".ts" := by
  have htext : "./" ++ stem ++ ".ts" = Text.joined "/" [".", stem ++ ".ts"] := by
    simp [Text.joined, ← String.toList_inj]
  have hparts : ∀ part ∈ [".", stem ++ ".ts"], '/' ∉ part.toList := by
    simp [hstem]
  have hsteps : (Path.mk ("./" ++ stem ++ ".ts")).steps = [.here, .name (stem ++ ".ts")] := by
    rw [htext, Path.steps_joined hparts (by decide), if_pos rfl]
    simp [Path.ofPart?_source, ofPart?_dots.1]
  rw [modulePath, steps_inFolder hfolder hfile, hsteps]
  simp [Path.lexicalStep, Text.joined, String.append_assoc]

theorem modulePath_cousin {other : String} (hfolder : IsFolder folder) (hfile : '/' ∉ file.toList)
    (hother : IsFolder other) (hstem : '/' ∉ stem.toList) :
    modulePath (folder ++ "/" ++ file ++ ".ts") ("../" ++ other ++ "/" ++ stem) =
      other ++ "/" ++ stem ++ ".ts" := by
  have htext : "../" ++ other ++ "/" ++ stem ++ ".ts" =
      Text.joined "/" ["..", other, stem ++ ".ts"] := by
    simp [Text.joined, ← String.toList_inj]
  have hparts : ∀ part ∈ ["..", other, stem ++ ".ts"], '/' ∉ part.toList := by
    simp [hother.1, hstem]
  have hsteps : (Path.mk ("../" ++ other ++ "/" ++ stem ++ ".ts")).steps =
      [.up, .name other, .name (stem ++ ".ts")] := by
    rw [htext, Path.steps_joined hparts (by decide), if_neg (by decide)]
    simp [Path.ofPart?_source, ofPart?_dots.2, hother.2]
  rw [modulePath, steps_inFolder hfolder hfile, hsteps]
  simp [Path.lexicalStep, Text.joined, String.append_assoc]

theorem modulePath_below (hfolder : IsFolder folder) (hstem : '/' ∉ stem.toList) :
    modulePath "index.ts" ("./" ++ folder ++ "/" ++ stem) = folder ++ "/" ++ stem ++ ".ts" := by
  have htext : "./" ++ folder ++ "/" ++ stem ++ ".ts" =
      Text.joined "/" [".", folder, stem ++ ".ts"] := by
    simp [Text.joined, ← String.toList_inj]
  have hparts : ∀ part ∈ [".", folder, stem ++ ".ts"], '/' ∉ part.toList := by
    simp [hfolder.1, hstem]
  have hsteps : (Path.mk ("./" ++ folder ++ "/" ++ stem ++ ".ts")).steps =
      [.here, .name folder, .name (stem ++ ".ts")] := by
    rw [htext, Path.steps_joined hparts (by decide), if_pos rfl]
    simp [Path.ofPart?_source, ofPart?_dots.1, hfolder.2]
  have hindex : (Path.mk "index.ts").steps.dropLast = [] := by decide
  rw [modulePath, hindex, hsteps]
  simp [Path.lexicalStep, Text.joined, String.append_assoc]

end Resolution

end TypeScript

end SchemaMocks
