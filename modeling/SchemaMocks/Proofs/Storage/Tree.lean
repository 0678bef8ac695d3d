import SchemaMocks.Proofs.Runs.Outcome
import SchemaMocks.Proofs.Storage.Steps
import SchemaMocks.Storage.FileTree

set_option autoImplicit false
set_option relaxedAutoImplicit false

/-!
What the steps on a tree of files change. A path leads to one place in every tree that it can be
followed in, and a step that succeeds changes the tree at that place only; making directories only
adds directories on the way.
-/

namespace SchemaMocks

namespace FileTree

section Nodes

variable {tree : FileTree} {place : Location}

theorem node?_erase_of_ne_nil (tree : FileTree) (place : Location) {at_ : Location}
    (hat : at_ ≠ []) :
    (tree.erase place).node? at_ = if at_ = place then none else tree.node? at_ := by
  unfold node? erase
  rw [if_neg hat, if_neg hat]
  induction tree.nodes with
  | nil => simp
  | cons entry rest ih =>
    obtain ⟨key, node⟩ := entry
    by_cases hkey : key = place
    · rw [List.filter_cons_of_neg (by simpa using hkey), ih]
      split
      · rfl
      · rename_i hne
        rw [List.lookup_cons, beq_false_of_ne (hkey ▸ hne)]
    · rw [List.filter_cons_of_pos (by simpa using hkey), List.lookup_cons, List.lookup_cons, ih]
      cases hsame : at_ == key with
      | false => rfl
      | true =>
        have hother : at_ ≠ place := eq_of_beq hsame ▸ hkey
        rw [if_neg hother, if_neg hother]

theorem node?_put_of_ne_nil (tree : FileTree) (place : Location) (node : FileNode) {at_ : Location}
    (hat : at_ ≠ []) :
    (tree.put place node).node? at_ = if at_ = place then some node else tree.node? at_ := by
  have hold := tree.node?_erase_of_ne_nil place hat
  unfold node? at hold ⊢
  rw [if_neg hat, put, List.lookup_cons]
  rw [if_neg hat] at hold
  by_cases hplace : at_ = place
  · rw [if_pos hplace, hplace, beq_self_eq_true]
  · rw [if_neg hplace, beq_false_of_ne hplace]
    rwa [if_neg hplace] at hold

theorem node?_erase (tree : FileTree) (hplace : place ≠ []) (at_ : Location) :
    (tree.erase place).node? at_ = if at_ = place then none else tree.node? at_ := by
  by_cases hat : at_ = []
  · subst hat
    rw [if_neg hplace.symm]
    rfl
  · exact tree.node?_erase_of_ne_nil place hat

theorem node?_put (tree : FileTree) (hplace : place ≠ []) (node : FileNode) (at_ : Location) :
    (tree.put place node).node? at_ = if at_ = place then some node else tree.node? at_ := by
  by_cases hat : at_ = []
  · subst hat
    rw [if_neg hplace.symm]
    rfl
  · exact tree.node?_put_of_ne_nil place node hat

end Nodes

end FileTree

/-! ### Places -/

namespace Path

variable {path : Path} {name : String}

/-- The place that a path leads to. -/
def place (path : Path) : Location :=
  path.steps.foldl lexicalStep FileTree.workingDirectory

def folderPlace (path : Path) : Location :=
  path.steps.dropLast.foldl lexicalStep FileTree.workingDirectory

theorem fileName?_eq_some_iff :
    path.fileName? = some name ↔ path.steps.getLast? = some (.name name) := by
  unfold fileName?
  split
  · rename_i s h
    simp [h]
  · rename_i h
    simpa using h name

private theorem steps_of_fileName? (h : path.fileName? = some name) :
    path.steps = path.steps.dropLast ++ [.name name] := by
  rw [fileName?_eq_some_iff] at h
  exact (List.dropLast_append_getLast? _ h).symm

theorem place_of_fileName? (h : path.fileName? = some name) :
    path.place = path.folderPlace ++ [name] := by
  rw [place, steps_of_fileName? h, List.foldl_append]
  rfl

theorem place_ne_nil (h : path.fileName? = some name) : path.place ≠ [] := by
  rw [place_of_fileName? h]
  simp

end Path

namespace FileTree

variable {tree after : FileTree} {path : Path} {place : Location}

private theorem walk_eq {here : Location} {steps : List PathStep}
    (h : tree.walk here steps = .ok place) :
    place = steps.foldl Path.lexicalStep here := by
  induction steps generalizing here with
  | nil =>
    cases h
    rfl
  | cons step rest ih =>
    unfold walk at h
    split at h
    · cases h
    · cases step with
      | root => exact ih h
      | here => exact ih h
      | up => exact ih h
      | name s =>
        dsimp only at h
        split at h
        · cases h
        · split at h
          · cases h
          · exact ih h

private theorem usableSteps_eq {steps : List PathStep} (h : usableSteps path = .ok steps) :
    steps = path.steps := by
  unfold usableSteps at h
  split_ifs at h
  cases h
  rfl

private theorem find_eq (h : tree.find path = .ok place) : place = path.place := by
  obtain ⟨steps, hsteps, h⟩ := bind_eq_ok_iff.1 h
  obtain rfl := usableSteps_eq hsteps
  obtain ⟨found, hfound, h⟩ := bind_eq_ok_iff.1 h
  split at h
  · cases h
    exact walk_eq hfound
  · cases h

private theorem target_eq {name : Option String} (h : tree.target path = .ok (place, name)) :
    place = path.folderPlace ∧ name = path.fileName? ∧ tree.node? place = some .directory := by
  obtain ⟨steps, hsteps, h⟩ := bind_eq_ok_iff.1 h
  obtain rfl := usableSteps_eq hsteps
  obtain ⟨dir, hdir, h⟩ := bind_eq_ok_iff.1 h
  split at h
  · cases h
  · rename_i hnode
    have hplace := walk_eq hdir
    have hdirectory := not_not.1 hnode
    split at h
    · rename_i s hlast
      split at h
      · cases h
      · cases h
        exact ⟨hplace, (Path.fileName?_eq_some_iff.2 hlast).symm, hdirectory⟩
    · rename_i hlast
      have hnone : path.fileName? = none := by
        cases hname : path.fileName? with
        | none => rfl
        | some s => exact absurd (Path.fileName?_eq_some_iff.1 hname) (hlast s)
      cases h
      exact ⟨hplace, hnone.symm, hdirectory⟩

section Steps

theorem openEmpty_eq (h : tree.openEmpty path = .ok after) :
    ∃ name, path.fileName? = some name ∧ tree.node? path.place ≠ some .directory ∧
      after = tree.put path.place (.file ByteArray.empty) := by
  obtain ⟨⟨dir, name?⟩, htarget, h⟩ := bind_eq_ok_iff.1 h
  obtain ⟨rfl, rfl, -⟩ := target_eq htarget
  dsimp only at h
  split at h
  · cases h
  · rename_i name hname
    rw [← Path.place_of_fileName? hname] at h
    split at h
    · cases h
    · rename_i hnode
      cases h
      exact ⟨name, hname, fun hdir => hnode (.inr hdir), rfl⟩

theorem append_eq {data : ByteArray} (h : tree.append path data = .ok after) :
    ∃ contents, tree.node? path.place = some (.file contents) ∧
      after = tree.put path.place (.file (contents ++ data)) := by
  obtain ⟨place, hplace, h⟩ := bind_eq_ok_iff.1 h
  obtain rfl := find_eq hplace
  split at h
  · rename_i contents hnode
    cases h
    exact ⟨contents, hnode, rfl⟩
  · cases h

theorem rename_eq {source destination : Path} (h : tree.rename source destination = .ok after) :
    ∃ contents name, tree.node? source.place = some (.file contents) ∧
      destination.fileName? = some name ∧ tree.node? destination.place ≠ some .directory ∧
      after = (tree.erase source.place).put destination.place (.file contents) := by
  obtain ⟨place, hplace, h⟩ := bind_eq_ok_iff.1 h
  obtain rfl := find_eq hplace
  obtain ⟨⟨dir, name?⟩, htarget, h⟩ := bind_eq_ok_iff.1 h
  obtain ⟨rfl, rfl, -⟩ := target_eq htarget
  dsimp only at h
  split at h
  · rename_i contents name hnode hname hending
    rw [← Path.place_of_fileName? hname] at h
    split at h
    · cases h
    · rename_i hdirectory
      cases h
      exact ⟨contents, name, hnode, hname, hdirectory, rfl⟩
  · cases h
  · obtain ⟨last, hlast, h⟩ := bind_eq_ok_iff.1 h
    split at h <;> cases h
  · cases h

theorem remove_eq (h : tree.remove path = .ok after) :
    tree.node? path.place ≠ some .directory ∧ after = tree.erase path.place := by
  obtain ⟨place, hplace, h⟩ := bind_eq_ok_iff.1 h
  obtain rfl := find_eq hplace
  split at h
  · cases h
  · rename_i hnode
    cases h
    exact ⟨hnode, rfl⟩

private theorem makeDirectory_eq (h : tree.makeDirectory path = .ok after) :
    ∃ name, path.fileName? = some name ∧ tree.node? path.place = none ∧
      after = tree.put path.place .directory := by
  obtain ⟨⟨dir, name?⟩, htarget, h⟩ := bind_eq_ok_iff.1 h
  obtain ⟨rfl, rfl, -⟩ := target_eq htarget
  dsimp only at h
  split at h
  · cases h
  · rename_i name hname
    rw [← Path.place_of_fileName? hname] at h
    split at h
    · cases h
    · rename_i hnode
      cases h
      exact ⟨name, hname, Option.not_isSome_iff_eq_none.1 hnode, rfl⟩

end Steps

section Directories

def Keeps (places : Location → Prop) (tree after : FileTree) (at_ : Location) : Prop :=
  after.node? at_ = tree.node? at_ ∨
    places at_ ∧ tree.node? at_ = none ∧ after.node? at_ = some .directory

variable {places : Location → Prop} {at_ : Location}

namespace Keeps

theorem refl (tree : FileTree) (at_ : Location) : Keeps places tree tree at_ :=
  .inl rfl

theorem trans {middle : FileTree} (h : Keeps places tree middle at_)
    (hafter : Keeps places middle after at_) : Keeps places tree after at_ := by
  rcases hafter with hsame | ⟨hat, hnone, hmade⟩
  · rw [Keeps, hsame]
    exact h
  · rcases h with hsame | ⟨-, -, hbefore⟩
    · exact .inr ⟨hat, hsame ▸ hnone, hmade⟩
    · rw [hbefore] at hnone
      cases hnone

theorem mono {others : Location → Prop} (h : Keeps places tree after at_)
    (himp : ∀ at_, places at_ → others at_) : Keeps others tree after at_ :=
  h.imp_right fun hmade => ⟨himp at_ hmade.1, hmade.2⟩

theorem eq_of_some {node : FileNode} (h : Keeps places tree after at_)
    (hnode : tree.node? at_ = some node) : after.node? at_ = some node := by
  rcases h with hsame | ⟨-, hnone, -⟩
  · rw [hsame, hnode]
  · rw [hnone] at hnode
    cases hnode

end Keeps

def OnlyMakes (places : Location → Prop) (tree after : FileTree) : Prop :=
  ∀ at_, Keeps places tree after at_

theorem OnlyMakes.refl (tree : FileTree) : OnlyMakes places tree tree :=
  Keeps.refl tree

private theorem OnlyMakes.trans {middle : FileTree} (h : OnlyMakes places tree middle)
    (hafter : OnlyMakes places middle after) : OnlyMakes places tree after :=
  fun at_ => (h at_).trans (hafter at_)

theorem OnlyMakes.mono {others : Location → Prop} (h : OnlyMakes places tree after)
    (himp : ∀ at_, places at_ → others at_) : OnlyMakes others tree after :=
  fun at_ => (h at_).mono himp

private theorem onlyMakes_makeDirectory (h : tree.makeDirectory path = .ok after)
    (hplace : places path.place) : OnlyMakes places tree after := by
  obtain ⟨name, hname, hnone, rfl⟩ := makeDirectory_eq h
  intro at_
  rw [Keeps, node?_put tree (Path.place_ne_nil hname)]
  by_cases hat : at_ = path.place
  · rw [if_pos hat, hat]
    exact .inr ⟨hplace, hnone, rfl⟩
  · rw [if_neg hat]
    exact .inl rfl

def AtStart (steps : List PathStep) (at_ : Location) : Prop :=
  ∃ first, first <+: steps ∧ at_ = first.foldl Path.lexicalStep workingDirectory

theorem AtStart.mono {first steps : List PathStep} (hfront : first <+: steps) (at_ : Location)
    (h : AtStart first at_) : AtStart steps at_ := by
  obtain ⟨start, hstart, hat⟩ := h
  exact ⟨start, hstart.trans hfront, hat⟩

private theorem onlyMakes_makeDirectoriesBack {steps : List PathStep}
    (hsteps : PathStep.AreComposed steps.reverse) :
    OnlyMakes (AtStart steps.reverse) tree (makeDirectoriesBack tree steps).2 := by
  induction steps generalizing tree with
  | nil => exact .refl tree
  | cons step before ih =>
    have hreverse : (step :: before).reverse = before.reverse ++ [step] := List.reverse_cons
    have hfirst : OnlyMakes (AtStart (step :: before).reverse) tree
        (makeDirectoriesBack tree before).2 :=
      (ih (hreverse ▸ hsteps).of_append).mono (AtStart.mono (hreverse ▸ List.prefix_append _ _))
    have hmake {middle after : FileTree}
        (h : middle.makeDirectory (Path.ofSteps (step :: before).reverse) = .ok after) :
        OnlyMakes (AtStart (step :: before).reverse) middle after := by
      refine onlyMakes_makeDirectory h ⟨_, List.prefix_rfl, ?_⟩
      rw [Path.place, Path.steps_ofSteps hsteps]
    unfold makeDirectoriesBack
    dsimp only
    split
    · rename_i made h
      exact hmake h
    · split
      · rename_i fault middle h
        rw [h] at hfirst
        exact hfirst
      · rename_i middle h
        rw [h] at hfirst
        split
        · rename_i made hmade
          exact hfirst.trans (hmake hmade)
        · exact hfirst
    · exact .refl tree

theorem onlyMakes_makeDirectories (tree : FileTree) (path : Path) :
    OnlyMakes (AtStart path.steps) tree (tree.makeDirectories path).2 := by
  have h : OnlyMakes (AtStart path.steps.reverse.reverse) tree
      (makeDirectoriesBack tree path.steps.reverse).2 :=
    onlyMakes_makeDirectoriesBack (by
      rw [List.reverse_reverse]
      exact path.areComposed_steps)
  rwa [List.reverse_reverse] at h

end Directories

end FileTree

end SchemaMocks
