import SchemaMocks.Proofs.Storage.Tree
import SchemaMocks.Storage.AtomicWrite

set_option autoImplicit false
set_option relaxedAutoImplicit false

/-!
Writing a file as a whole, in a session where every step may be made to fail. Until the file beside
the target is moved, nothing but that file changes, apart from new directories on the way; moving it
is a single step. So the target is at any time as it was or complete.
-/

namespace SchemaMocks

namespace FileTree

def OnlyAt (place : Location) (tree after : FileTree) : Prop :=
  ∀ at_, at_ ≠ place → after.node? at_ = tree.node? at_

section OnlyAt

variable {tree middle after : FileTree} {path : Path} {place : Location}

private theorem OnlyAt.refl (place : Location) (tree : FileTree) : OnlyAt place tree tree :=
  fun _ _ => rfl

private theorem OnlyAt.trans (h : OnlyAt place tree middle) (hafter : OnlyAt place middle after) :
    OnlyAt place tree after :=
  fun at_ hat => (hafter at_ hat).trans (h at_ hat)

private theorem onlyAt_put (hplace : place ≠ []) (node : FileNode) :
    OnlyAt place tree (tree.put place node) := by
  intro at_ hat
  rw [node?_put tree hplace, if_neg hat]

private theorem ne_nil_of_file {contents : ByteArray}
    (h : tree.node? place = some (.file contents)) :
    place ≠ [] := by
  rintro rfl
  cases h

theorem onlyAt_append {data : ByteArray} (h : tree.append path data = .ok after) :
    OnlyAt path.place tree after := by
  obtain ⟨contents, hnode, rfl⟩ := append_eq h
  exact onlyAt_put (ne_nil_of_file hnode) _

private theorem onlyAt_openEmpty (h : tree.openEmpty path = .ok after) :
    OnlyAt path.place tree after := by
  obtain ⟨name, hname, -, rfl⟩ := openEmpty_eq h
  exact onlyAt_put (Path.place_ne_nil hname) _

end OnlyAt

end FileTree

/-! ### The file beside the target -/

namespace Path

variable {path temporary : Path} {name : String}

private theorem ofPart?_of_last {c : Char} {part : String} (hlast : part.toList.getLast? = some c)
    (hc : c ≠ '.') : PathStep.ofPart? part = some (.name part) := by
  have hne (other : String) (hother : other.toList.getLast? ≠ some c) : part ≠ other := by
    rintro rfl
    exact hother hlast
  have hempty : part ≠ "" := hne "" (by simp)
  have hdot : part ≠ "." := hne "." (by simpa using hc.symm)
  have hdots : part ≠ ".." := hne ".." (by simpa using hc.symm)
  rw [PathStep.ofPart?, if_neg (not_or.2 ⟨hempty, hdot⟩), if_neg hdots]

private theorem isFolder_of_fileName? (h : path.fileName? = some name) :
    TypeScript.IsFolder name := by
  obtain ⟨front, inner, hfront, hinner, hsteps⟩ := path.areComposed_steps
  rw [fileName?_eq_some_iff, hsteps] at h
  obtain rfl | ⟨init, last, rfl⟩ := List.eq_nil_or_concat' inner
  · simp only [List.mem_cons, List.not_mem_nil, or_false] at hfront
    rcases hfront with rfl | rfl | rfl <;> cases h
  · rw [← List.append_assoc, List.getLast?_concat, Option.some_inj] at h
    have hlast := hinner last (List.mem_append_right _ (List.mem_singleton_self _))
    rwa [h] at hlast

theorem temporary_spec (h : path.temporary? = some temporary) :
    ∃ name, path.fileName? = some name ∧ temporary.fileName? = some (name ++ ".tmp") ∧
      temporary.place = path.folderPlace ++ [name ++ ".tmp"] := by
  obtain ⟨name, hname, rfl⟩ := Option.map_eq_some_iff.1 h
  have hslash : '/' ∉ (name ++ ".tmp").toList := by
    simpa using (isFolder_of_fileName? hname).1
  have hfolder : TypeScript.IsFolder (name ++ ".tmp") :=
    ⟨hslash, ofPart?_of_last (by simp) (by decide : 'p' ≠ '.')⟩
  have hsteps : (path.withFileName (name ++ ".tmp")).steps =
      path.steps.dropLast ++ [.name (name ++ ".tmp")] :=
    steps_ofSteps (path.areComposed_steps.dropLast.concat hfolder)
  refine ⟨name, hname, ?_, ?_⟩
  · rw [fileName?_eq_some_iff, hsteps, List.getLast?_concat]
  · rw [place, hsteps, List.foldl_append]
    rfl

private theorem temporary_place_ne (h : path.temporary? = some temporary) :
    temporary.place ≠ path.place := by
  obtain ⟨name, hname, -, hplace⟩ := temporary_spec h
  rw [hplace, place_of_fileName? hname]
  intro heq
  simp at heq

end Path

/-! ### Single steps of a session -/

namespace Session

variable {s t : Session}

private theorem step_cases {α : Type} {act : FileTree → Except StorageFault α × FileTree}
    {broken : Nat → FileTree → FileTree} {result : Except StorageFault α}
    (h : step act broken s = (result, t)) :
    t.log = s.log ∧
      ((∃ f : StepFault, result = .error f.fault ∧ t.tree = broken f.progress s.tree) ∨
        (result, t.tree) = act s.tree) := by
  unfold step at h
  split at h
  · rename_i f faults hfaults
    cases h
    exact ⟨rfl, .inl ⟨f, rfl, rfl⟩⟩
  · cases h
    exact ⟨rfl, .inr rfl⟩

private theorem change_cases {act : FileTree → Except StorageFault FileTree}
    {result : Except StorageFault Unit} (h : change act s = (result, t)) :
    t.log = s.log ∧
      (result = .ok () ∧ act s.tree = .ok t.tree ∨
        ∃ fault, result = .error fault ∧ t.tree = s.tree) := by
  obtain ⟨hlog, ⟨f, hresult, htree⟩ | hact⟩ := step_cases h
  · exact ⟨hlog, .inr ⟨f.fault, hresult, htree⟩⟩
  · refine ⟨hlog, ?_⟩
    cases hchange : act s.tree with
    | ok tree =>
      rw [hchange] at hact
      cases hact
      exact .inl ⟨rfl, rfl⟩
    | error fault =>
      rw [hchange] at hact
      obtain ⟨hresult, htree⟩ := Prod.mk.inj hact
      exact .inr ⟨fault, hresult, htree⟩

theorem onlyAt_changed {change : Except StorageFault FileTree} {tree : FileTree} {place : Location}
    (h : ∀ after, change = .ok after → tree.OnlyAt place after) :
    tree.OnlyAt place (changed tree change).2 := by
  cases change with
  | ok after => exact h after rfl
  | error fault => exact .refl place tree

variable {path : Path} {data : ByteArray} {result : Except StorageFault Unit}

private theorem openEmpty_spec
    (h : (Host.openEmpty path : HostStep (StateM Session) Unit) s = (result, t)) :
    t.log = s.log ∧ s.tree.OnlyAt path.place t.tree ∧
      (result = .ok () → s.tree.openEmpty path = .ok t.tree) := by
  obtain ⟨hlog, ⟨hresult, hopen⟩ | ⟨fault, rfl, htree⟩⟩ := change_cases h
  · exact ⟨hlog, FileTree.onlyAt_openEmpty hopen, fun _ => hopen⟩
  · exact ⟨hlog, htree ▸ .refl _ _, nofun⟩

private theorem write_spec
    (h : (Host.write path data : HostStep (StateM Session) Unit) s = (result, t)) :
    t.log = s.log ∧ s.tree.OnlyAt path.place t.tree ∧
      (result = .ok () → s.tree.append path data = .ok t.tree) := by
  obtain ⟨hlog, ⟨f, rfl, htree⟩ | hact⟩ := step_cases h
  · refine ⟨hlog, ?_, nofun⟩
    rw [htree]
    exact onlyAt_changed fun after hafter => FileTree.onlyAt_append hafter
  · have htree : t.tree = (changed s.tree (s.tree.append path data)).2 := congrArg Prod.snd hact
    refine ⟨hlog, ?_, ?_⟩
    · rw [htree]
      exact onlyAt_changed fun after hafter => FileTree.onlyAt_append hafter
    · rintro rfl
      cases happend : s.tree.append path data with
      | ok tree =>
        rw [htree, happend]
        rfl
      | error fault =>
        rw [happend] at hact
        cases (Prod.mk.inj hact).1

private theorem sync_spec (h : (Host.sync path : HostStep (StateM Session) Unit) s = (result, t)) :
    t.log = s.log ∧ t.tree = s.tree := by
  obtain ⟨hlog, ⟨-, hsync⟩ | ⟨-, -, htree⟩⟩ := change_cases h
  · exact ⟨hlog, (Except.ok.inj hsync).symm⟩
  · exact ⟨hlog, htree⟩

private theorem rename_spec {destination : Path}
    (h : (Host.rename path destination : HostStep (StateM Session) Unit) s = (result, t)) :
    t.log = s.log ∧ (result = .ok () → s.tree.rename path destination = .ok t.tree) ∧
      ∀ fault, result = .error fault → t.tree = s.tree := by
  obtain ⟨hlog, ⟨rfl, hmove⟩ | ⟨fault, rfl, htree⟩⟩ := change_cases h
  · exact ⟨hlog, fun _ => hmove, nofun⟩
  · exact ⟨hlog, nofun, fun _ _ => htree⟩

private theorem remove_spec (hplace : path.place ≠ [])
    (h : (Host.remove path : HostStep (StateM Session) Unit) s = (result, t)) :
    t.log = s.log ∧ s.tree.OnlyAt path.place t.tree ∧
      (result = .ok () → t.tree.node? path.place = none) := by
  obtain ⟨hlog, ⟨-, hremove⟩ | ⟨fault, rfl, htree⟩⟩ := change_cases h
  · obtain ⟨-, hafter⟩ := FileTree.remove_eq hremove
    refine ⟨hlog, fun at_ hat => ?_, fun _ => ?_⟩
    · rw [hafter, s.tree.node?_erase hplace, if_neg hat]
    · rw [hafter, s.tree.node?_erase hplace, if_pos rfl]
  · exact ⟨hlog, htree ▸ .refl _ _, nofun⟩

private theorem makeDirectories_spec
    (h : (Host.makeDirectories path : HostStep (StateM Session) Unit) s = (result, t)) :
    t.log = s.log ∧ s.tree.OnlyMakes (FileTree.AtStart path.steps) t.tree := by
  obtain ⟨hlog, ⟨f, -, htree⟩ | hact⟩ := step_cases h
  · refine ⟨hlog, ?_⟩
    rw [htree, cutDirectories]
    refine (FileTree.onlyMakes_makeDirectories s.tree _).mono ?_
    rw [Path.steps_ofSteps (path.areComposed_steps.take f.progress)]
    exact FileTree.AtStart.mono (List.take_prefix _ _)
  · have htree : t.tree = (s.tree.makeDirectories path).2 := congrArg Prod.snd hact
    exact ⟨hlog, htree ▸ FileTree.onlyMakes_makeDirectories s.tree path⟩

private theorem syncDirectory_spec
    (h : (Host.syncDirectory path : HostStep (StateM Session) Unit) s = (result, t)) :
    t.log = s.log ∧ t.tree = s.tree := by
  obtain ⟨hlog, ⟨-, -, htree⟩ | hact⟩ := step_cases h
  · exact ⟨hlog, htree⟩
  · exact ⟨hlog, congrArg Prod.snd hact⟩

end Session

section MoveIntoPlace

variable {path temporary : Path} {data : ByteArray} {s t : Session}

private theorem writeAndMove_error {fault : StorageFault}
    (h : (writeAndMove (m := StateM Session) temporary path data).run s = (.error fault, t)) :
    t.log = s.log ∧ s.tree.OnlyAt temporary.place t.tree := by
  rcases of_bind_run_error h with hopen | ⟨_, opened, hopen, h⟩
  · obtain ⟨hlog, honly, -⟩ := Session.openEmpty_spec hopen
    exact ⟨hlog, honly⟩
  obtain ⟨hlog, honly, -⟩ := Session.openEmpty_spec hopen
  rcases of_bind_run_error h with hwrite | ⟨_, written, hwrite, h⟩
  · obtain ⟨hwlog, hwonly, -⟩ := Session.write_spec hwrite
    exact ⟨hwlog.trans hlog, honly.trans hwonly⟩
  obtain ⟨hwlog, hwonly, -⟩ := Session.write_spec hwrite
  rcases of_bind_run_error h with hsync | ⟨_, synced, hsync, h⟩
  · obtain ⟨hslog, hstree⟩ := Session.sync_spec hsync
    exact ⟨hslog.trans (hwlog.trans hlog), hstree ▸ honly.trans hwonly⟩
  obtain ⟨hslog, hstree⟩ := Session.sync_spec hsync
  obtain ⟨hrlog, -, hrtree⟩ := Session.rename_spec h
  refine ⟨hrlog.trans (hslog.trans (hwlog.trans hlog)), ?_⟩
  rw [hrtree fault rfl, hstree]
  exact honly.trans hwonly

private theorem writeAndMove_ok (hapart : temporary.place ≠ path.place)
    (h : (writeAndMove (m := StateM Session) temporary path data).run s = (.ok (), t)) :
    t.log = s.log ∧ t.tree.node? path.place = some (.file data) ∧
      t.tree.node? temporary.place = none ∧
      ∀ at_, at_ ≠ temporary.place → at_ ≠ path.place → t.tree.node? at_ = s.tree.node? at_ := by
  obtain ⟨_, opened, hopen, h⟩ := of_bind_run_ok h
  obtain ⟨_, written, hwrite, h⟩ := of_bind_run_ok h
  obtain ⟨_, synced, hsync, hmove⟩ := of_bind_run_ok h
  obtain ⟨holog, honly, hopened⟩ := Session.openEmpty_spec hopen
  obtain ⟨hwlog, hwonly, hwritten⟩ := Session.write_spec hwrite
  obtain ⟨hslog, hstree⟩ := Session.sync_spec hsync
  obtain ⟨hrlog, hmoved, -⟩ := Session.rename_spec hmove
  obtain ⟨name, hname, -, hempty⟩ := FileTree.openEmpty_eq (hopened rfl)
  have hplace : temporary.place ≠ [] := Path.place_ne_nil hname
  have hdata : synced.tree.node? temporary.place = some (.file data) := by
    obtain ⟨contents, hnode, hfull⟩ := FileTree.append_eq (hwritten rfl)
    rw [hempty, FileTree.node?_put _ hplace, if_pos rfl] at hnode
    cases hnode
    rw [hstree, hfull, FileTree.node?_put _ hplace, if_pos rfl, ByteArray.empty_append]
  obtain ⟨contents, target, hnode, htarget, -, hafter⟩ := FileTree.rename_eq (hmoved rfl)
  have hpath : path.place ≠ [] := Path.place_ne_nil htarget
  rw [hdata] at hnode
  cases hnode
  refine ⟨hrlog.trans (hslog.trans (hwlog.trans holog)), ?_, ?_, fun at_ htemporary hat => ?_⟩
  · rw [hafter, FileTree.node?_put _ hpath, if_pos rfl]
  · rw [hafter, FileTree.node?_put _ hpath, if_neg hapart, FileTree.node?_erase _ hplace,
      if_pos rfl]
  · rw [hafter, FileTree.node?_put _ hpath, if_neg hat, FileTree.node?_erase _ hplace,
      if_neg htemporary, hstree, hwonly at_ htemporary, honly at_ htemporary]

private theorem moveOrCleanUp_cases {result : Except StorageFault Unit}
    (h : (tryCatch (writeAndMove (m := StateM Session) temporary path data) fun fault => do
      cleanUp (m := StateM Session) temporary
      throw fault).run s = (result, t)) :
    result = .ok () ∧
        (writeAndMove (m := StateM Session) temporary path data).run s = (.ok (), t) ∨
      ∃ fault removal undone, result = .error fault ∧
        (writeAndMove (m := StateM Session) temporary path data).run s = (.error fault, undone) ∧
        (Host.remove temporary : HostStep (StateM Session) Unit) undone = (removal, t) := by
  rw [tryCatch_run] at h
  split at h
  · rename_i done hmove
    cases h
    exact .inl ⟨rfl, hmove⟩
  · rename_i fault undone hmove
    have hrun : ((liftM (cleanUp (m := StateM Session) temporary) :
        ExceptT StorageFault (StateM Session) Unit) >>= fun _ => throw fault).run undone =
          (result, t) := h
    rw [bind_run_of_ok (liftM_run _ undone)] at hrun
    cases hrun
    exact .inr ⟨fault, _, undone, rfl, hmove, rfl⟩

end MoveIntoPlace

section Outcome

def Path.Passes (path : Path) : Location → Prop :=
  FileTree.AtStart path.steps.dropLast

private theorem Path.withParent_cases {path : Path} {act : Path → HostStep (StateM Session) Unit}
    {s t : Session} {result : Except StorageFault Unit}
    (h : (path.withParent act).run s = (result, t)) :
    t = s ∨ ∃ parent : Path, parent.steps = path.steps.dropLast ∧ act parent s = (result, t) := by
  unfold Path.withParent at h
  split at h
  · rename_i parent hparent
    split at h
    · cases h
      exact .inl rfl
    · refine .inr ⟨parent, ?_, h⟩
      unfold Path.parent? at hparent
      split at hparent
      · cases hparent
      · cases hparent
      · cases hparent
        exact Path.steps_ofSteps path.areComposed_steps.dropLast
  · cases h
    exact .inl rfl

private theorem Path.makeParent_spec {path : Path} {s t : Session}
    {result : Except StorageFault Unit}
    (h : (path.withParent (m := StateM Session) Host.makeDirectories).run s = (result, t)) :
    t.log = s.log ∧ s.tree.OnlyMakes path.Passes t.tree := by
  rcases Path.withParent_cases h with rfl | ⟨parent, hparent, hmake⟩
  · exact ⟨rfl, .refl _⟩
  · rw [Path.Passes, ← hparent]
    exact Session.makeDirectories_spec hmake

private theorem Path.syncParent_spec {path : Path} {s t : Session}
    {result : Except StorageFault Unit}
    (h : (path.withParent (m := StateM Session) Host.syncDirectory).run s = (result, t)) :
    t.log = s.log ∧ t.tree = s.tree := by
  rcases Path.withParent_cases h with rfl | ⟨parent, -, hsync⟩
  · exact ⟨rfl, rfl⟩
  · exact Session.syncDirectory_spec hsync

variable {path : Path} {data : ByteArray} {before after : Session}
  {result : Except StorageFault Unit}

private theorem writeAtomic_cases
    (h : (writeAtomic (m := StateM Session) path data).run before = (result, after)) :
    (∃ fault, result = .error fault ∧
        ((path.withParent (m := StateM Session) Host.makeDirectories).run before =
            (.error fault, after) ∨
          path.temporary? = none ∧
            (path.withParent (m := StateM Session) Host.makeDirectories).run before =
              (.ok (), after))) ∨
      ∃ made temporary,
        (path.withParent (m := StateM Session) Host.makeDirectories).run before = (.ok (), made) ∧
        path.temporary? = some temporary ∧
        ((∃ fault removal undone, result = .error fault ∧
            (writeAndMove (m := StateM Session) temporary path data).run made =
              (.error fault, undone) ∧
            (Host.remove temporary : HostStep (StateM Session) Unit) undone = (removal, after)) ∨
          ∃ moved,
            (writeAndMove (m := StateM Session) temporary path data).run made = (.ok (), moved) ∧
            after.log = moved.log ∧ after.tree = moved.tree) := by
  unfold writeAtomic at h
  rw [bind_run] at h
  split at h
  · rename_i made hmake
    split at h
    · rename_i hnone
      cases h
      exact .inl ⟨_, rfl, .inr ⟨hnone, hmake⟩⟩
    · rename_i temporary htemporary
      refine .inr ⟨made, temporary, hmake, htemporary, ?_⟩
      rw [bind_run] at h
      split at h
      · rename_i moved hmove
        rcases moveOrCleanUp_cases hmove with ⟨-, hmoved⟩ | ⟨fault, removal, undone, herror, -⟩
        · exact .inr ⟨moved, hmoved, Path.syncParent_spec h⟩
        · cases herror
      · rename_i fault undone hmove
        cases h
        rcases moveOrCleanUp_cases hmove with ⟨hok, -⟩ | hfailed
        · cases hok
        · exact .inl hfailed
  · rename_i fault made hmake
    cases h
    exact .inl ⟨fault, rfl, .inl hmake⟩

/-- What writing a file as a whole leaves, with the result that it gives. -/
structure AtomicOutcome (path : Path) (data : ByteArray) (before : Session)
    (result : Except StorageFault Unit) (after : Session) : Prop where
  log : after.log = before.log
  /-- The target is as it was, or it is the complete file. -/
  target : before.tree.Keeps path.Passes after.tree path.place ∨
    after.tree.node? path.place = some (.file data)
  /-- All other places are as they were, the file beside the target and new directories on the way
  apart. -/
  others : ∀ at_, at_ ≠ path.place → path.temporary?.map Path.place ≠ some at_ →
    before.tree.Keeps path.Passes after.tree at_
  finished : result = .ok () → after.tree.node? path.place = some (.file data) ∧
    ∃ temporary, path.temporary? = some temporary ∧ after.tree.node? temporary.place = none
  /-- After a fault the file beside the target is gone, unless its removal failed as well, or the
  fault was met in making the directory, before there was such a file. -/
  failed : ∀ fault temporary, result = .error fault → path.temporary? = some temporary →
    after.tree.node? temporary.place = none ∨
      (path.withParent (m := StateM Session) Host.makeDirectories).run before = (.error fault, after) ∨
      ∃ made undone second,
        (path.withParent (m := StateM Session) Host.makeDirectories).run before = (.ok (), made) ∧
        (writeAndMove (m := StateM Session) temporary path data).run made = (.error fault, undone) ∧
        (Host.remove temporary : HostStep (StateM Session) Unit) undone = (.error second, after)

private theorem AtomicOutcome.of_made {fault : StorageFault} {made : Except StorageFault Unit}
    (hmake : (path.withParent (m := StateM Session) Host.makeDirectories).run before =
      (made, after))
    (hfault : made = .error fault ∨ path.temporary? = none) :
    AtomicOutcome path data before (.error fault) after := by
  obtain ⟨hlog, honly⟩ := Path.makeParent_spec hmake
  refine ⟨hlog, .inl (honly _), fun at_ _ _ => honly at_, nofun, ?_⟩
  intro _ temporary hsame htemporary
  cases hsame
  rcases hfault with rfl | hnone
  · exact .inr (.inl hmake)
  · rw [hnone] at htemporary
    cases htemporary

section Moved

variable {made : Session} {temporary : Path}
  (hmake : (path.withParent (m := StateM Session) Host.makeDirectories).run before =
    (.ok (), made))
  (htemporary : path.temporary? = some temporary)

include hmake htemporary

private theorem AtomicOutcome.of_undone {fault : StorageFault} {removal : Except StorageFault Unit}
    {undone : Session}
    (hmove : (writeAndMove (m := StateM Session) temporary path data).run made =
      (.error fault, undone))
    (hremove : (Host.remove temporary : HostStep (StateM Session) Unit) undone =
      (removal, after)) :
    AtomicOutcome path data before (.error fault) after := by
  obtain ⟨name, -, hname, -⟩ := Path.temporary_spec htemporary
  obtain ⟨hlog, honly⟩ := Path.makeParent_spec hmake
  obtain ⟨hulog, huonly⟩ := writeAndMove_error hmove
  obtain ⟨hrlog, hronly, hgone⟩ := Session.remove_spec (Path.place_ne_nil hname) hremove
  have hkept (at_ : Location) (hat : at_ ≠ temporary.place) :
      before.tree.Keeps path.Passes after.tree at_ :=
    (honly at_).trans (.inl ((huonly.trans hronly) at_ hat))
  refine ⟨hrlog.trans (hulog.trans hlog), .inl (hkept _ ?_), ?_, nofun, ?_⟩
  · exact (Path.temporary_place_ne htemporary).symm
  · intro at_ _ hat
    rw [htemporary] at hat
    exact hkept at_ fun heq => hat (congrArg some heq.symm)
  · intro _ other hsame hother
    cases hsame
    obtain rfl : temporary = other := Option.some.inj (htemporary.symm.trans hother)
    cases removal with
    | ok _ => exact .inl (hgone rfl)
    | error second => exact .inr (.inr ⟨made, undone, second, hmake, hmove, hremove⟩)

private theorem AtomicOutcome.of_moved {moved : Session}
    (hmove : (writeAndMove (m := StateM Session) temporary path data).run made = (.ok (), moved))
    (hlog : after.log = moved.log) (htree : after.tree = moved.tree) :
    AtomicOutcome path data before result after := by
  obtain ⟨hmlog, honly⟩ := Path.makeParent_spec hmake
  obtain ⟨hwlog, hdata, hgone, hothers⟩ :=
    writeAndMove_ok (Path.temporary_place_ne htemporary) hmove
  rw [← htree] at hdata hgone hothers
  refine ⟨hlog.trans (hwlog.trans hmlog), .inr hdata, ?_,
    fun _ => ⟨hdata, temporary, htemporary, hgone⟩, ?_⟩
  · intro at_ htarget hat
    rw [htemporary] at hat
    exact (honly at_).trans (.inl (hothers at_ (fun heq => hat (congrArg some heq.symm)) htarget))
  · intro fault other _ hother
    obtain rfl : temporary = other := Option.some.inj (htemporary.symm.trans hother)
    exact .inl hgone

end Moved

/-- Whatever fails, the target is as it was or complete. -/
theorem writeAtomic_outcome
    (h : (writeAtomic (m := StateM Session) path data).run before = (result, after)) :
    AtomicOutcome path data before result after := by
  rcases writeAtomic_cases h with ⟨fault, rfl, hmake | ⟨hnone, hmake⟩⟩ |
    ⟨made, temporary, hmake, htemporary, ⟨fault, removal, undone, rfl, hmove, hremove⟩ |
      ⟨moved, hmove, hlog, htree⟩⟩
  · exact .of_made hmake (.inl rfl)
  · exact .of_made hmake (.inr hnone)
  · exact .of_undone hmake htemporary hmove hremove
  · exact .of_moved hmake htemporary hmove hlog htree

end Outcome

end SchemaMocks
