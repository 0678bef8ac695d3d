import SchemaMocks.Generation.Run
import SchemaMocks.Proofs.Runs.Outcome
import SchemaMocks.Proofs.Storage.Tree

set_option autoImplicit false
set_option relaxedAutoImplicit false

/-!
What the work on files depends on. Where files and directories stand decides how each step ends, and
what the files hold does not; so two sessions that differ in the contents of files only, and in what was
noticed, fare alike.
-/

namespace SchemaMocks

namespace FileTree

def SameKinds (a b : FileTree) : Prop :=
  ∀ at_, a.node? at_ = none ∧ b.node? at_ = none ∨
    a.node? at_ = some .directory ∧ b.node? at_ = some .directory ∨
    ∃ c d, a.node? at_ = some (.file c) ∧ b.node? at_ = some (.file d)

namespace SameKinds

variable {a b : FileTree}

private theorem refl (a : FileTree) : SameKinds a a := by
  intro at_
  cases hnode : a.node? at_ with
  | none => exact .inl ⟨rfl, rfl⟩
  | some node =>
    cases node with
    | directory => exact .inr (.inl ⟨rfl, rfl⟩)
    | file c => exact .inr (.inr ⟨c, c, rfl, rfl⟩)

private theorem symm (h : SameKinds a b) : SameKinds b a := by
  intro at_
  rcases h at_ with ⟨ha, hb⟩ | ⟨ha, hb⟩ | ⟨c, d, ha, hb⟩
  · exact .inl ⟨hb, ha⟩
  · exact .inr (.inl ⟨hb, ha⟩)
  · exact .inr (.inr ⟨d, c, hb, ha⟩)

private theorem directory_iff (h : SameKinds a b) (at_ : Location) :
    a.node? at_ = some .directory ↔ b.node? at_ = some .directory := by
  rcases h at_ with ⟨ha, hb⟩ | ⟨ha, hb⟩ | ⟨c, d, ha, hb⟩ <;> simp [ha, hb]

private theorem isNone_eq (h : SameKinds a b) (at_ : Location) :
    (a.node? at_).isNone = (b.node? at_).isNone := by
  rcases h at_ with ⟨ha, hb⟩ | ⟨ha, hb⟩ | ⟨c, d, ha, hb⟩ <;> simp [ha, hb]

private theorem isSome_eq (h : SameKinds a b) (at_ : Location) :
    (a.node? at_).isSome = (b.node? at_).isSome := by
  rcases h at_ with ⟨ha, hb⟩ | ⟨ha, hb⟩ | ⟨c, d, ha, hb⟩ <;> simp [ha, hb]

private theorem put_directory (h : SameKinds a b) (place : Location) :
    SameKinds (a.put place .directory) (b.put place .directory) := by
  intro at_
  by_cases hat : at_ = []
  · subst hat
    exact .inr (.inl ⟨rfl, rfl⟩)
  · rw [node?_put_of_ne_nil a place _ hat, node?_put_of_ne_nil b place _ hat]
    split
    · exact .inr (.inl ⟨rfl, rfl⟩)
    · exact h at_

private theorem put_file (h : SameKinds a b) (place : Location) (c d : ByteArray) :
    SameKinds (a.put place (.file c)) (b.put place (.file d)) := by
  intro at_
  by_cases hat : at_ = []
  · subst hat
    exact .inr (.inl ⟨rfl, rfl⟩)
  · rw [node?_put_of_ne_nil a place _ hat, node?_put_of_ne_nil b place _ hat]
    split
    · exact .inr (.inr ⟨c, d, rfl, rfl⟩)
    · exact h at_

private theorem erase (h : SameKinds a b) (place : Location) :
    SameKinds (a.erase place) (b.erase place) := by
  intro at_
  by_cases hat : at_ = []
  · subst hat
    exact .inr (.inl ⟨rfl, rfl⟩)
  · rw [node?_erase_of_ne_nil a place hat, node?_erase_of_ne_nil b place hat]
    split
    · exact .inl ⟨rfl, rfl⟩
    · exact h at_

private theorem put_same {place : Location} {c d : ByteArray} (h : SameKinds a b)
    (hnode : a.node? place = some (.file c)) : SameKinds (a.put place (.file d)) b := by
  intro at_
  by_cases hat : at_ = []
  · subst hat
    exact .inr (.inl ⟨rfl, rfl⟩)
  · rw [node?_put_of_ne_nil a place _ hat]
    split
    · rename_i hplace
      rcases h at_ with ⟨ha, -⟩ | ⟨ha, -⟩ | ⟨-, e, -, hb⟩
      · rw [hplace, hnode] at ha
        cases ha
      · rw [hplace, hnode] at ha
        cases ha
      · exact .inr (.inr ⟨d, e, rfl, hb⟩)
    · exact h at_

end SameKinds

section Following

variable {a b : FileTree} (h : SameKinds a b) (path : Path)

include h

private theorem SameKinds.walk (here : Location) (steps : List PathStep) :
    a.walk here steps = b.walk here steps := by
  induction steps generalizing here with
  | nil => rfl
  | cons step rest ih =>
    unfold FileTree.walk
    simp only [ne_eq, h.directory_iff, h.isNone_eq, ih]

private theorem SameKinds.find : a.find path = b.find path := by
  unfold FileTree.find
  simp only [h.directory_iff, h.walk]

private theorem SameKinds.target : a.target path = b.target path := by
  unfold FileTree.target
  simp only [ne_eq, h.directory_iff, h.walk]

private theorem SameKinds.isDirectory : a.isDirectory path = b.isDirectory path := by
  unfold FileTree.isDirectory
  simp only [h.directory_iff, h.find path]

end Following

inductive SameChange : Except StorageFault FileTree → Except StorageFault FileTree → Prop
  | ok {a b : FileTree} (kinds : SameKinds a b) : SameChange (.ok a) (.ok b)
  | error (fault : StorageFault) : SameChange (.error fault) (.error fault)

private theorem SameChange.bind {α : Type} {found : Except StorageFault α}
    {next other : α → Except StorageFault FileTree} (h : ∀ x, SameChange (next x) (other x)) :
    SameChange (found >>= next) (found >>= other) := by
  cases found with
  | error fault => exact .error fault
  | ok x => exact h x

section Changes

variable {a b : FileTree} (h : SameKinds a b) (path : Path)

include h

private theorem SameKinds.makeDirectory :
    SameChange (a.makeDirectory path) (b.makeDirectory path) := by
  unfold FileTree.makeDirectory
  rw [h.target path]
  refine SameChange.bind fun (dir, name) => ?_
  cases name with
  | none => exact .error _
  | some name =>
    dsimp only
    rw [h.isSome_eq]
    split
    · exact .error _
    · exact .ok (h.put_directory _)

private theorem SameKinds.openEmpty : SameChange (a.openEmpty path) (b.openEmpty path) := by
  unfold FileTree.openEmpty
  rw [h.target path]
  refine SameChange.bind fun (dir, name) => ?_
  cases name with
  | none => exact .error _
  | some name =>
    simp only [h.directory_iff]
    split
    · exact .error _
    · exact .ok (h.put_file _ _ _)

private theorem SameKinds.append (data : ByteArray) :
    SameChange (a.append path data) (b.append path data) := by
  unfold FileTree.append
  rw [h.find path]
  refine SameChange.bind fun place => ?_
  rcases h place with ⟨ha, hb⟩ | ⟨ha, hb⟩ | ⟨c, d, ha, hb⟩
  · rw [ha, hb]
    exact .error _
  · rw [ha, hb]
    exact .error _
  · rw [ha, hb]
    exact .ok (h.put_file _ _ _)

private theorem SameKinds.rename (destination : Path) :
    SameChange (a.rename path destination) (b.rename path destination) := by
  unfold FileTree.rename
  rw [h.find path, h.target destination, h.find destination]
  refine SameChange.bind fun place => SameChange.bind fun (dir, name) => ?_
  rcases h place with ⟨ha, hb⟩ | ⟨ha, hb⟩ | ⟨c, d, ha, hb⟩
  · rw [ha, hb]
    exact .error _
  · rw [ha, hb]
    exact .error _
  · rw [ha, hb]
    have hlast (last : Location) : SameChange
        (if a.node? last = some .directory then .error .busy else .error .notADirectory)
        (if b.node? last = some .directory then .error .busy else .error .notADirectory) := by
      simp only [h.directory_iff]
      split <;> exact .error _
    cases name with
    | none => exact SameChange.bind hlast
    | some name =>
      cases destination.ending with
      | plain =>
        simp only [h.directory_iff]
        split
        · exact .error _
        · exact .ok ((h.erase place).put_file _ c d)
      | slash => exact .error _
      | dot => exact SameChange.bind hlast

private theorem SameKinds.remove : SameChange (a.remove path) (b.remove path) := by
  unfold FileTree.remove
  rw [h.find path]
  refine SameChange.bind fun place => ?_
  simp only [h.directory_iff]
  split
  · exact .error _
  · exact .ok (h.erase _)

private theorem SameKinds.makeDirectoriesBack (steps : List PathStep) :
    (a.makeDirectoriesBack steps).1 = (b.makeDirectoriesBack steps).1 ∧
      SameKinds (a.makeDirectoriesBack steps).2 (b.makeDirectoriesBack steps).2 := by
  induction steps with
  | nil => exact ⟨rfl, h⟩
  | cons step before ih =>
    let path := Path.ofSteps (step :: before).reverse
    have hsettled {a b : FileTree} (h : SameKinds a b) (fault : StorageFault) :
        ((if a.isDirectory path then .ok () else .error fault : Except StorageFault Unit) =
          if b.isDirectory path then .ok () else .error fault) ∧ SameKinds a b := by
      rw [h.isDirectory path]
      exact ⟨rfl, h⟩
    have hmake := h.makeDirectory path
    unfold FileTree.makeDirectoriesBack
    dsimp only
    generalize a.makeDirectory path = x at hmake
    generalize b.makeDirectory path = y at hmake
    cases hmake with
    | ok kinds => exact ⟨rfl, kinds⟩
    | error fault =>
      cases fault with
      | notFound =>
        generalize a.makeDirectoriesBack before = x at ih
        generalize b.makeDirectoriesBack before = y at ih
        obtain ⟨result, left⟩ := x
        obtain ⟨other, right⟩ := y
        obtain ⟨rfl, hmiddle⟩ := ih
        cases result with
        | error fault => exact ⟨rfl, hmiddle⟩
        | ok _ =>
          have hagain := hmiddle.makeDirectory path
          dsimp only at hagain ⊢
          generalize left.makeDirectory path = x at hagain
          generalize right.makeDirectory path = y at hagain
          cases hagain with
          | ok kinds => exact ⟨rfl, kinds⟩
          | error fault => exact hsettled hmiddle fault
      | _ => exact hsettled h _

private theorem SameKinds.makeDirectories :
    (a.makeDirectories path).1 = (b.makeDirectories path).1 ∧
      SameKinds (a.makeDirectories path).2 (b.makeDirectories path).2 :=
  h.makeDirectoriesBack path.steps.reverse

end Changes

end FileTree

/-! ### Sessions -/

structure Session.Alike (s t : Session) : Prop where
  kinds : s.tree.SameKinds t.tree
  faults : s.faults = t.faults
  log : s.log = t.log

private theorem Session.Alike.symm {s t : Session} (h : s.Alike t) : t.Alike s :=
  ⟨h.kinds.symm, h.faults.symm, h.log.symm⟩

theorem Session.Alike.refl (s : Session) : s.Alike s :=
  ⟨.refl s.tree, rfl, rfl⟩

def Respects {α : Type} (act : StateM Session α) : Prop :=
  ∀ s t : Session, s.Alike t → (act s).1 = (act t).1 ∧ (act s).2.Alike (act t).2

section Rules

variable {ε α β : Type}

theorem respects_pure (a : α) : Respects (pure a) :=
  fun _ _ h => ⟨rfl, h⟩

theorem Respects.bind {act : StateM Session α} {next : α → StateM Session β} (h : Respects act)
    (hnext : ∀ a, Respects (next a)) : Respects (act >>= next) := by
  intro s t hst
  obtain ⟨hresult, hafter⟩ := h s t hst
  have hrun (u : Session) : (act >>= next) u = next (act u).1 (act u).2 := rfl
  rw [hrun, hrun, hresult]
  exact hnext _ _ _ hafter

variable {act : ExceptT ε (StateM Session) α}

theorem Respects.bindRun {next : α → ExceptT ε (StateM Session) β} (h : Respects act.run)
    (hnext : ∀ a, Respects (next a).run) : Respects (act >>= next).run := by
  intro s t hst
  obtain ⟨hresult, hafter⟩ := h s t hst
  rw [bind_run, bind_run]
  rcases hs : act.run s with ⟨result, u⟩
  rcases ht : act.run t with ⟨other, v⟩
  rw [hs, ht] at hresult hafter
  obtain rfl : result = other := hresult
  cases result with
  | error e => exact ⟨rfl, hafter⟩
  | ok a => exact hnext a u v hafter

private theorem Respects.tryCatch {handler : ε → ExceptT ε (StateM Session) α}
    (h : Respects act.run)
    (hhandler : ∀ e, Respects (handler e).run) : Respects (tryCatch act handler).run := by
  intro s t hst
  obtain ⟨hresult, hafter⟩ := h s t hst
  rw [tryCatch_run, tryCatch_run]
  rcases hs : act.run s with ⟨result, u⟩
  rcases ht : act.run t with ⟨other, v⟩
  rw [hs, ht] at hresult hafter
  obtain rfl : result = other := hresult
  cases result with
  | error e => exact hhandler e u v hafter
  | ok a => exact ⟨rfl, hafter⟩

theorem Respects.adapt {ε' : Type} (f : ε → ε') (h : Respects act.run) :
    Respects (ExceptT.adapt f act).run :=
  Respects.bind h fun result => respects_pure (result.mapError f)

theorem Respects.lift {act : StateM Session α} (h : Respects act) :
    Respects (liftM act : ExceptT ε (StateM Session) α).run :=
  Respects.bind h fun a => respects_pure (Except.ok a)

private theorem respects_throw (e : ε) : Respects (throw e : ExceptT ε (StateM Session) α).run :=
  respects_pure (Except.error e)

theorem respects_return (a : α) : Respects (pure a : ExceptT ε (StateM Session) α).run :=
  respects_pure (Except.ok a)

end Rules

section Host

open Session

private theorem respects_step {α : Type} {act : FileTree → Except StorageFault α × FileTree}
    {broken : Nat → FileTree → FileTree}
    (hact : ∀ a b : FileTree, a.SameKinds b → (act a).1 = (act b).1 ∧ (act a).2.SameKinds (act b).2)
    (hbroken : ∀ (n : Nat) (a b : FileTree), a.SameKinds b →
      (broken n a).SameKinds (broken n b)) : Respects (step act broken) := by
  intro s t hst
  unfold step
  rw [← hst.faults]
  obtain ⟨hresult, hkinds⟩ := hact _ _ hst.kinds
  split
  · rename_i f faults hfaults
    exact ⟨rfl, hbroken _ _ _ hst.kinds, rfl, hst.log⟩
  · exact ⟨hresult, hkinds, rfl, hst.log⟩

private theorem changed_alike {a b : FileTree} (h : a.SameKinds b)
    {x y : Except StorageFault FileTree}
    (hchange : FileTree.SameChange x y) :
    (changed a x).1 = (changed b y).1 ∧ (changed a x).2.SameKinds (changed b y).2 := by
  cases hchange with
  | ok kinds => exact ⟨rfl, kinds⟩
  | error fault => exact ⟨rfl, h⟩

private theorem respects_change {act : FileTree → Except StorageFault FileTree}
    (h : ∀ a b : FileTree, a.SameKinds b → FileTree.SameChange (act a) (act b)) :
    Respects (change act) :=
  respects_step (fun a b hab => changed_alike hab (h a b hab)) fun _ _ _ hab => hab

private theorem respects_makeDirectories (path : Path) :
    Respects (Host.makeDirectories path : HostStep (StateM Session) Unit) :=
  respects_step (fun _ _ h => h.makeDirectories path) fun _ _ _ h => (h.makeDirectories _).2

private theorem respects_openEmpty (path : Path) :
    Respects (Host.openEmpty path : HostStep (StateM Session) Unit) :=
  respects_change fun _ _ h => h.openEmpty path

private theorem respects_write (path : Path) (data : ByteArray) :
    Respects (Host.write path data : HostStep (StateM Session) Unit) :=
  respects_step (fun _ _ h => changed_alike h (h.append path data))
    fun _ _ _ h => (changed_alike h (h.append path _)).2

private theorem respects_sync (path : Path) :
    Respects (Host.sync path : HostStep (StateM Session) Unit) :=
  respects_change fun _ _ h => .ok h

private theorem respects_rename (source destination : Path) :
    Respects (Host.rename source destination : HostStep (StateM Session) Unit) :=
  respects_change fun _ _ h => h.rename source destination

private theorem respects_remove (path : Path) :
    Respects (Host.remove path : HostStep (StateM Session) Unit) :=
  respects_change fun _ _ h => h.remove path

private theorem respects_syncDirectory (path : Path) :
    Respects (Host.syncDirectory path : HostStep (StateM Session) Unit) :=
  respects_step (fun _ _ h => ⟨by rw [h.find path], h⟩) fun _ _ _ h => h

theorem takeNotice_alike {s t : Session} (n : Notice) (h : s.Alike t) : (s.takeNotice n).Alike t := by
  unfold Session.takeNotice
  dsimp only
  split
  · rename_i path hlog
    split
    · exact ⟨h.kinds, h.faults, h.log⟩
    · refine ⟨?_, h.faults, h.log⟩
      cases happend : s.tree.append path (n.logLine ++ "\n").toUTF8 with
      | error fault => exact h.kinds
      | ok after =>
        obtain ⟨contents, hnode, rfl⟩ := FileTree.append_eq happend
        exact h.kinds.put_same hnode
  · exact ⟨h.kinds, h.faults, h.log⟩

theorem respects_notice (n : Notice) : Respects (Host.notice n : StateM Session Unit) :=
  fun _ _ h => ⟨rfl, (takeNotice_alike n (takeNotice_alike n h).symm).symm⟩

theorem respects_notices (ns : List Notice) : Respects (Host.notices ns : StateM Session Unit) := by
  induction ns with
  | nil => exact respects_pure ()
  | cons n rest ih => exact (respects_notice n).bind fun _ => ih

end Host

section Storage

private theorem respects_withParent {act : Path → HostStep (StateM Session) Unit}
    (h : ∀ path, Respects (act path)) (path : Path) : Respects (path.withParent act).run := by
  unfold Path.withParent
  split
  · split
    · exact respects_return ()
    · exact h _
  · exact respects_return ()

private theorem respects_writeAndMove (temporary path : Path) (data : ByteArray) :
    Respects (writeAndMove (m := StateM Session) temporary path data).run :=
  Respects.bindRun (respects_openEmpty temporary) fun _ =>
    Respects.bindRun (respects_write temporary data) fun _ =>
      Respects.bindRun (respects_sync temporary) fun _ => respects_rename temporary path

private theorem respects_writeAtomic (path : Path) (data : ByteArray) :
    Respects (writeAtomic (m := StateM Session) path data).run := by
  refine Respects.bindRun (respects_withParent respects_makeDirectories path) fun _ => ?_
  cases path.temporary? with
  | none => exact respects_throw _
  | some temporary =>
    refine Respects.bindRun ?_ fun _ => respects_withParent respects_syncDirectory path
    refine Respects.tryCatch (respects_writeAndMove temporary path data) fun fault => ?_
    refine Respects.bindRun (Respects.lift ?_) fun _ => respects_throw fault
    exact (respects_remove temporary).bind fun _ => respects_pure ()

private theorem respects_writeFiles (dir : Path) (files : List OutputFile) :
    Respects (writeFiles (m := StateM Session) dir files).run := by
  induction files with
  | nil => exact respects_return []
  | cons file rest ih =>
    refine Respects.bindRun (respects_writeAtomic _ _) fun _ => ?_
    refine Respects.bindRun (Respects.lift (respects_notice _)) fun _ => ?_
    exact Respects.bindRun ih fun paths => respects_return _

theorem respects_generate (doc : Document) (config : GeneratorConfig) (output : Option Path) :
    Respects (doc.generate (m := StateM Session) config output).run := by
  unfold Document.generate
  split
  · exact respects_throw _
  · split
    · exact respects_throw _
    · refine Respects.bindRun (Respects.lift (respects_notices _)) fun _ => ?_
      refine Respects.bindRun (Respects.adapt _ (respects_writeFiles _ _)) fun written => ?_
      exact Respects.bindRun (Respects.lift (respects_notices _)) fun _ => respects_return _

end Storage

end SchemaMocks
