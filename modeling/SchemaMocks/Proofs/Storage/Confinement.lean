import SchemaMocks.Proofs.Storage.Batches

set_option autoImplicit false
set_option relaxedAutoImplicit false

/-!
Where the files of a document end up. By the letter of its path, each file lies below the output
directory, whatever that is, if and only if no model goes by a name that leads out of its folder.
Validation lets such names through.
-/

namespace SchemaMocks

/-- Where a path leads by its letter: from the root or from where one is, so many directories up and
then down by names. -/
structure Whereabouts where
  absolute : Bool
  ups : Nat
  names : List String
  deriving DecidableEq

namespace Whereabouts

/-- Where one is. -/
def start : Whereabouts :=
  ⟨false, 0, []⟩

/-- A step up undoes the last name; without a name it leads further up, but not above the root. -/
def step (w : Whereabouts) : PathStep → Whereabouts
  | .root => ⟨true, 0, []⟩
  | .here => w
  | .up =>
    if w.names ≠ [] then { w with names := w.names.dropLast }
    else if w.absolute then w
    else { w with ups := w.ups + 1 }
  | .name s => { w with names := w.names ++ [s] }

end Whereabouts

namespace Path

def whereabouts (path : Path) : Whereabouts :=
  path.steps.foldl Whereabouts.step .start

/-- Whether a path leads into a directory, and not just to it. -/
def IsStrictlyBelow (path dir : Path) : Prop :=
  path.whereabouts.absolute = dir.whereabouts.absolute ∧
    path.whereabouts.ups = dir.whereabouts.ups ∧
    dir.whereabouts.names <+: path.whereabouts.names ∧
    dir.whereabouts.names ≠ path.whereabouts.names

instance (path dir : Path) : Decidable (path.IsStrictlyBelow dir) :=
  inferInstanceAs (Decidable (_ ∧ _ ∧ _ ∧ _))

end Path

section Depth

/-- Whether steps that begin so many names deep never lead out of the place where the count is
nought. -/
def StaysBelow : Nat → List PathStep → Prop
  | _, [] => True
  | n, .name _ :: rest => StaysBelow (n + 1) rest
  | n + 1, .up :: rest => StaysBelow n rest
  | 0, .up :: _ => False
  | n, .here :: rest => StaysBelow n rest
  | _, .root :: _ => False

namespace Whereabouts

variable {w : Whereabouts} {base inner : List String} {steps : List PathStep}

private theorem step_up_concat (s : String) (hw : w.names = inner ++ [s]) :
    w.step .up = { w with names := inner } := by
  have hne : w.names ≠ [] := by simp [hw]
  rw [step, if_pos hne, hw, List.dropLast_concat]

private theorem step_up_nil (hw : w.names = []) (hrelative : w.absolute = false) :
    w.step .up = { w with ups := w.ups + 1 } := by
  rw [step, if_neg (by simp [hw]), if_neg (by simp [hrelative])]

private theorem foldl_step_of_staysBelow (h : StaysBelow inner.length steps)
    (hw : w.names = base ++ inner) :
    ∃ left, steps.foldl step w = { w with names := base ++ left } := by
  induction steps generalizing w inner with
  | nil => exact ⟨inner, by rw [← hw]; rfl⟩
  | cons s rest ih =>
    cases s with
    | root => exact h.elim
    | here => exact ih h hw
    | name s =>
      have hdeep : StaysBelow (inner ++ [s]).length rest := by
        simpa [StaysBelow] using h
      exact ih hdeep (by simp [step, hw])
    | up =>
      obtain rfl | ⟨init, s, rfl⟩ := List.eq_nil_or_concat inner
      · exact h.elim
      · have hup : w.step .up = { w with names := base ++ init } :=
          step_up_concat s (by rw [hw, List.concat_eq_append, List.append_assoc])
        have hdeep : StaysBelow init.length rest := by
          simpa [StaysBelow] using h
        rw [List.foldl_cons, hup]
        exact ih hdeep rfl

private theorem foldl_step_inner (hsteps : ∀ s ∈ steps, s.IsInner) :
    (steps.foldl step w).absolute = w.absolute ∧ w.ups ≤ (steps.foldl step w).ups := by
  induction steps generalizing w with
  | nil => exact ⟨rfl, Nat.le_refl _⟩
  | cons s rest ih =>
    obtain ⟨hs, hrest⟩ := List.forall_mem_cons.1 hsteps
    have hone : (w.step s).absolute = w.absolute ∧ w.ups ≤ (w.step s).ups := by
      cases s with
      | root => exact hs.elim
      | here => exact hs.elim
      | name s => exact ⟨rfl, Nat.le_refl _⟩
      | up =>
        unfold step
        dsimp only
        split_ifs <;> simp
    obtain ⟨habsolute, hups⟩ := ih (w := w.step s) hrest
    exact ⟨habsolute.trans hone.1, Nat.le_trans hone.2 hups⟩

private theorem ups_lt_of_not_staysBelow (hsteps : ∀ s ∈ steps, s.IsInner)
    (hrelative : w.absolute = false) (h : ¬StaysBelow w.names.length steps) :
    w.ups < (steps.foldl step w).ups := by
  induction steps generalizing w with
  | nil => exact absurd trivial h
  | cons s rest ih =>
    obtain ⟨hs, hrest⟩ := List.forall_mem_cons.1 hsteps
    rw [List.foldl_cons]
    cases s with
    | root => exact hs.elim
    | here => exact hs.elim
    | name s => exact ih (w := w.step (.name s)) hrest hrelative (by simpa [StaysBelow, step] using h)
    | up =>
      obtain hnil | ⟨init, s, hconcat⟩ := List.eq_nil_or_concat w.names
      · rw [step_up_nil hnil hrelative]
        have hrise := (foldl_step_inner (w := { w with ups := w.ups + 1 }) hrest).2
        exact Nat.lt_of_succ_le hrise
      · rw [List.concat_eq_append] at hconcat
        rw [step_up_concat s hconcat]
        rw [hconcat, List.length_append] at h
        exact ih (w := { w with names := init }) hrest hrelative h

end Whereabouts

end Depth

namespace Path

variable {file last : String} {folder : List PathStep}

private theorem whereabouts_join (dir : Path) (h : IsInner file) :
    (dir.join file).whereabouts =
      (Path.mk file).steps.foldl Whereabouts.step dir.whereabouts := by
  rw [whereabouts, steps_join dir h, List.foldl_append, whereabouts]

private theorem IsInner.isInner_steps (h : IsInner file) :
    ∀ step ∈ (Path.mk file).steps, step.IsInner := by
  intro step hstep
  rw [h.steps_eq] at hstep
  obtain ⟨part, hpart, hstep⟩ := List.mem_filterMap.1 hstep
  exact PathStep.isInner_of_ofPart? (slash_notMem_textParts hpart) hstep

private theorem forall_join_isStrictlyBelow_iff (h : IsInner file)
    (hsteps : (Path.mk file).steps = folder ++ [.name last]) :
    (∀ dir : Path, (dir.join file).IsStrictlyBelow dir) ↔ StaysBelow 0 folder := by
  constructor
  · intro hbelow
    by_contra hout
    have hinner : ∀ step ∈ folder, step.IsInner := fun step hstep =>
      h.isInner_steps step (hsteps ▸ List.mem_append_left _ hstep)
    have hrise := Whereabouts.ups_lt_of_not_staysBelow (w := .start) hinner rfl hout
    have hups := (hbelow ⟨""⟩).2.1
    rw [whereabouts_join _ h, hsteps, List.foldl_append] at hups
    change 0 < (folder.foldl Whereabouts.step .start).ups at hrise
    change (folder.foldl Whereabouts.step .start).ups = 0 at hups
    omega
  · intro hstays dir
    have hdepth : StaysBelow ([] : List String).length folder := hstays
    have hdir : dir.whereabouts.names = dir.whereabouts.names ++ [] := by simp
    obtain ⟨left, hfolder⟩ := Whereabouts.foldl_step_of_staysBelow hdepth hdir
    have hfile : (dir.join file).whereabouts =
        { dir.whereabouts with names := dir.whereabouts.names ++ left ++ [last] } := by
      rw [whereabouts_join _ h, hsteps, List.foldl_append, hfolder]
      rfl
    rw [IsStrictlyBelow, hfile]
    refine ⟨rfl, rfl, ⟨left ++ [last], by simp⟩, ?_⟩
    simp

end Path

section Models

def IsConfined (file : String) : Prop :=
  ∀ dir : Path, (dir.join file).IsStrictlyBelow dir

/-- The steps within a folder to a file that goes by a stem. -/
def folderSteps (stem : String) : List PathStep :=
  (Path.mk stem).textParts.dropLast.filterMap PathStep.ofPart?

/-- Whether the name that a model goes by does not lead out of the folder of its files. -/
def Model.StaysInFolder (model : Model) : Prop :=
  StaysBelow 1 (folderSteps model.stem)

private theorem Path.textParts_append {text back last : String} {init : List String}
    (hback : '/' ∉ back.toList) (h : (Path.mk text).textParts = init ++ [last]) :
    (Path.mk (text ++ back)).textParts = init ++ [last ++ back] := by
  obtain ⟨pieces, final, hpieces, rfl, hfinal⟩ := List.map_eq_append_iff.1 h
  obtain ⟨piece, rfl, rfl⟩ := List.map_eq_singleton_iff.1 hfinal
  rw [Path.textParts, String.toList_append, Text.pieces_append_of_notMem hback hpieces]
  simp

section Files

variable {folder kind : String}

private theorem steps_folderFile (hfolder : TypeScript.IsFolder folder) (hkind : '/' ∉ kind.toList)
    (stem : String) :
    Path.IsInner (folder ++ "/" ++ stem ++ (kind ++ ".ts")) ∧
      ∃ last, (Path.mk (folder ++ "/" ++ stem ++ (kind ++ ".ts"))).steps =
        .name folder :: folderSteps stem ++ [.name last] := by
  obtain ⟨init, last, hstem⟩ : ∃ init last, (Path.mk stem).textParts = init ++ [last] :=
    List.eq_nil_or_concat' _ |>.resolve_left (Path.textParts_ne_nil _)
  have hending : '/' ∉ (kind ++ ".ts").toList := by simp [hkind]
  have hfront : (Path.mk folder).textParts = [folder] := by
    rw [Path.textParts, Text.pieces_of_notMem hfolder.1]
    simp
  have hparts : (Path.mk (folder ++ "/" ++ stem ++ (kind ++ ".ts"))).textParts =
      folder :: init ++ [last ++ (kind ++ ".ts")] := by
    refine Path.textParts_append hending ?_
    rw [Path.textParts_between, hfront, hstem]
    rfl
  have hinner : Path.IsInner (folder ++ "/" ++ stem ++ (kind ++ ".ts")) := by
    rw [Path.IsInner, hparts]
    simpa using hfolder.ne_empty
  have hlast : PathStep.ofPart? (last ++ (kind ++ ".ts")) = some (.name (last ++ (kind ++ ".ts"))) := by
    rw [← String.append_assoc]
    exact Path.ofPart?_source _
  refine ⟨hinner, last ++ (kind ++ ".ts"), ?_⟩
  rw [hinner.steps_eq, hparts, folderSteps, hstem, List.dropLast_concat, List.filterMap_append,
    List.filterMap_cons_some hfolder.2, List.filterMap_cons_some hlast]
  rfl

private theorem isConfined_folderFile_iff (hfolder : TypeScript.IsFolder folder)
    (hkind : '/' ∉ kind.toList) (stem : String) :
    IsConfined (folder ++ "/" ++ stem ++ (kind ++ ".ts")) ↔ StaysBelow 1 (folderSteps stem) := by
  obtain ⟨hinner, last, hsteps⟩ := steps_folderFile hfolder hkind stem
  exact Path.forall_join_isStrictlyBelow_iff hinner hsteps

private theorem isConfined_schemaPath_iff (stem : String) :
    IsConfined (TypeScript.PerModel.schemaPath stem) ↔ StaysBelow 1 (folderSteps stem) := by
  have hpath : TypeScript.PerModel.schemaPath stem = "schemas" ++ "/" ++ stem ++ ("" ++ ".ts") := by
    simp [TypeScript.PerModel.schemaPath]
  rw [hpath]
  exact isConfined_folderFile_iff ⟨by decide, by decide⟩ (by decide) stem

private theorem isConfined_mockPath_iff (stem : String) :
    IsConfined (TypeScript.PerModel.mockPath stem) ↔ StaysBelow 1 (folderSteps stem) := by
  have hpath : TypeScript.PerModel.mockPath stem = "mocks" ++ "/" ++ stem ++ (".mock" ++ ".ts") := by
    simp [TypeScript.PerModel.mockPath]
  rw [hpath]
  exact isConfined_folderFile_iff ⟨by decide, by decide⟩ (by decide) stem

private theorem isConfined_fixed :
    IsConfined "index.ts" ∧ IsConfined "mocks.ts" ∧ IsConfined "mocks/faker.ts" := by
  have hbelow {name last : String} {folder : List PathStep} (hinner : Path.IsInner name)
      (hsteps : (Path.mk name).steps = folder ++ [.name last]) (hfolder : StaysBelow 0 folder) :
      IsConfined name :=
    (Path.forall_join_isStrictlyBelow_iff hinner hsteps).2 hfolder
  have hfaker : (Path.mk "mocks/faker.ts").steps = [.name "mocks"] ++ [.name "faker.ts"] := by decide
  have hindex : (Path.mk "index.ts").steps = [] ++ [.name "index.ts"] := by decide
  have hmocks : (Path.mk "mocks.ts").steps = [] ++ [.name "mocks.ts"] := by decide
  exact ⟨hbelow (by decide) hindex (by trivial), hbelow (by decide) hmocks (by trivial),
    hbelow (by decide) hfaker (by trivial)⟩

end Files

section Layouts

variable (config : GeneratorConfig) (doc : Document)

private theorem schemaPaths_confined_iff :
    (∀ path ∈ TypeScript.PerModel.schemaPaths config doc, IsConfined path) ↔
      (config.createZodSchemas = true → ∀ model ∈ doc.models, model.StaysInFolder) := by
  have henums : IsConfined (TypeScript.PerModel.schemaPath "enums") := by
    have hsteps : folderSteps "enums" = [] := by decide
    rw [isConfined_schemaPath_iff, hsteps]
    trivial
  have hfront : ∀ stem ∈ (if doc.enums.isEmpty then [] else ["enums"]),
      IsConfined (TypeScript.PerModel.schemaPath stem) := by
    intro stem hstem
    split at hstem
    · cases hstem
    · obtain rfl := List.mem_singleton.1 hstem
      exact henums
  have hmodel (model : Model) :
      IsConfined (TypeScript.PerModel.schemaPath model.stem) ↔ model.StaysInFolder :=
    isConfined_schemaPath_iff model.stem
  unfold TypeScript.PerModel.schemaPaths TypeScript.PerModel.schemaStems
  cases config.createZodSchemas with
  | false => simp
  | true =>
    simp only [if_true, List.forall_mem_map, List.forall_mem_append, hmodel, true_imp_iff]
    exact and_iff_right hfront

private theorem mockPaths_confined_iff :
    (∀ path ∈ TypeScript.PerModel.mockPaths config doc, IsConfined path) ↔
      (config.createMockFactories = true → ∀ model ∈ doc.models, model.StaysInFolder) := by
  have hmodel (model : Model) :
      IsConfined (TypeScript.PerModel.mockPath model.stem) ↔ model.StaysInFolder :=
    isConfined_mockPath_iff model.stem
  unfold TypeScript.PerModel.mockPaths
  cases config.createMockFactories with
  | false => simp
  | true =>
    simp only [if_true, List.forall_mem_cons, List.forall_mem_map, hmodel, true_imp_iff]
    exact and_iff_right isConfined_fixed.2.2

private theorem perModel_confined_iff :
    (∀ path ∈ (TypeScript.PerModel.files config doc).map (·.path), IsConfined path) ↔
      (config.createZodSchemas = true ∨ config.createMockFactories = true →
        ∀ model ∈ doc.models, model.StaysInFolder) := by
  have hindex : ∀ path ∈ (TypeScript.PerModel.indexFiles config doc).map TypeScript.SourceFile.path,
      IsConfined path := by
    intro path hpath
    unfold TypeScript.PerModel.indexFiles at hpath
    dsimp only at hpath
    split at hpath
    · obtain rfl := List.mem_singleton.1 hpath
      exact isConfined_fixed.1
    · cases hpath
  have hperm : ∀ path, path ∈ (TypeScript.PerModel.files config doc).map (·.path) ↔ _ :=
    fun path => (TypeScript.PerModel.paths_perm config doc).mem_iff
  simp only [hperm, List.forall_mem_append, schemaPaths_confined_iff, mockPaths_confined_iff, or_imp]
  exact and_iff_left hindex

private theorem bundle_confined :
    ∀ path ∈ (TypeScript.Bundle.files config doc).map (·.path), IsConfined path := by
  intro path hpath
  obtain ⟨file, hfile, rfl⟩ := List.mem_map.1 hpath
  rcases List.mem_cons.1 hfile with rfl | hfile
  · exact isConfined_fixed.1
  · split at hfile
    · obtain rfl := List.mem_singleton.1 hfile
      exact isConfined_fixed.2.1
    · cases hfile

end Layouts

/-- The paths of the files that a run has written are those of the document's files below the output
directory; and these lie below it, whatever it is, if and only if each model that has files of its
own goes by a name that does not lead out of their folder. -/
theorem Document.files_confined_iff (config : GeneratorConfig) (doc : Document) :
    (∀ (dir : Path) (before after : Session) (paths : List Path),
        (writeFiles (m := StateM Session) dir ((doc.files config).map (·.output))).run before =
            (.ok paths, after) →
          paths = (doc.files config).map fun file => dir.join file.path) ∧
      ((∀ dir : Path, ∀ file ∈ doc.files config, (dir.join file.path).IsStrictlyBelow dir) ↔
        (config.useMultipleFiles = true →
          config.createZodSchemas = true ∨ config.createMockFactories = true →
            ∀ model ∈ doc.models, model.StaysInFolder)) := by
  have hpaths : (∀ dir : Path, ∀ file ∈ doc.files config, (dir.join file.path).IsStrictlyBelow dir) ↔
      ∀ path ∈ (doc.files config).map (·.path), IsConfined path := by
    rw [List.forall_mem_map]
    exact ⟨fun h file hfile dir => h dir file hfile, fun h dir file hfile => h file hfile dir⟩
  refine ⟨fun dir before after paths h => ?_, hpaths.trans ?_⟩
  · rw [(writeFiles_ok_iff.1 h).1, List.map_map]
    rfl
  unfold Document.files
  cases config.useMultipleFiles with
  | false => simpa using bundle_confined config doc
  | true => simpa using perModel_confined_iff config doc

/-- A model whose name leads out of the folder of schemas and out of the output directory. -/
def escapingDocument : Document where
  models := [Model.bare "../../escaped" []]
  enums := []
  types := []

/-- A layout with one file per model, and nothing but schemas. -/
def schemasOnly : GeneratorConfig :=
  { GeneratorConfig.standard with
    useMultipleFiles := true
    writeBarrelFiles := false
    createMockFactories := false
    createInputTypes := false }

/-- A valid document of which a file is written beside the output directory. -/
theorem Document.file_escapes :
    escapingDocument.validate = .ok () ∧
      ((writeFiles (m := StateM Session) ⟨"out"⟩
          ((escapingDocument.files schemasOnly).map (·.output))).run (Session.ofTree .empty)).1 =
        .ok [⟨"out/schemas/../../escaped.ts"⟩] ∧
      ¬(Path.mk "out/schemas/../../escaped.ts").IsStrictlyBelow ⟨"out"⟩ := by
  refine ⟨?_, ?_, ?_⟩ <;> decide +kernel

end Models

end SchemaMocks
