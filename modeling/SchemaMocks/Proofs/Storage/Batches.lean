import SchemaMocks.Generation.Run
import SchemaMocks.Proofs.Storage.Writing

set_option autoImplicit false
set_option relaxedAutoImplicit false

/-!
Writing several files one after the other. The run ends with the first file that fails: the files
before it are complete, it is itself as it was or complete, and those after it are as they were. Paths
count as different where they lead to different places, for a path with steps up can be written in
several ways.
-/

namespace SchemaMocks

section Runs

/-- The place of a file below a directory. -/
def filePlace (dir : Path) (file : OutputFile) : Location :=
  (dir.join file.path).place

def writeBelow (dir : Path) (file : OutputFile) : ExceptT StorageFault (StateM Session) Unit :=
  writeAtomic (dir.join file.path) file.contents.toUTF8

def noticeWritten (dir : Path) (file : OutputFile) (s : Session) : Session :=
  s.takeNotice (.fileWritten (dir.join file.path).text file.contents.toUTF8.size)

/-- Files are written one after the other, and each of them succeeds. -/
inductive WritesAll (dir : Path) : List OutputFile → Session → Session → Prop
  | nil (s : Session) : WritesAll dir [] s s
  | cons {file : OutputFile} {rest : List OutputFile} {s t u : Session}
      (written : (writeBelow dir file).run s = (.ok (), t))
      (others : WritesAll dir rest (noticeWritten dir file t) u) : WritesAll dir (file :: rest) s u

variable {dir : Path} {files : List OutputFile} {before after : Session}

private theorem writeFiles_cons_run {file : OutputFile} {rest : List OutputFile} (s : Session) :
    (writeFiles (m := StateM Session) dir (file :: rest)).run s =
      match (writeBelow dir file).run s with
      | (.ok _, t) =>
        match (writeFiles (m := StateM Session) dir rest).run (noticeWritten dir file t) with
        | (.ok paths, u) => (.ok (dir.join file.path :: paths), u)
        | (.error fault, u) => (.error fault, u)
      | (.error fault, t) => (.error fault, t) := by
  have hrun : (writeFiles (m := StateM Session) dir (file :: rest)).run s =
      (writeBelow dir file >>= fun _ =>
        (liftM (Host.notice (.fileWritten (dir.join file.path).text file.contents.toUTF8.size) :
          StateM Session Unit) : ExceptT StorageFault (StateM Session) Unit) >>= fun _ =>
        writeFiles dir rest >>= fun paths => pure (dir.join file.path :: paths)).run s := rfl
  rw [hrun, bind_run]
  cases (writeBelow dir file).run s with
  | mk result t =>
    cases result with
    | error fault => rfl
    | ok _ =>
      dsimp only
      have hnotice : (liftM (Host.notice (.fileWritten (dir.join file.path).text
          file.contents.toUTF8.size) : StateM Session Unit) :
            ExceptT StorageFault (StateM Session) Unit).run t =
          (.ok (), noticeWritten dir file t) := rfl
      rw [bind_run_of_ok hnotice, bind_run]
      rcases (writeFiles (m := StateM Session) dir rest).run (noticeWritten dir file t) with
        ⟨_ | paths, u⟩ <;> rfl

/-- Writing files succeeds exactly where each of them does, and gives their paths in order. -/
theorem writeFiles_ok_iff {paths : List Path} :
    (writeFiles (m := StateM Session) dir files).run before = (.ok paths, after) ↔
      paths = files.map (fun file => dir.join file.path) ∧ WritesAll dir files before after := by
  induction files generalizing before paths with
  | nil =>
    constructor
    · intro h
      cases h
      exact ⟨rfl, .nil after⟩
    · rintro ⟨rfl, ⟨⟩⟩
      rfl
  | cons file rest ih =>
    rw [writeFiles_cons_run]
    constructor
    · intro h
      split at h
      · rename_i t hwritten
        split at h
        · rename_i later u hrest
          cases h
          obtain ⟨rfl, hothers⟩ := ih.1 hrest
          exact ⟨rfl, .cons hwritten hothers⟩
        · cases h
      · cases h
    · rintro ⟨rfl, hall⟩
      cases hall with
      | cons hwritten hothers =>
        rw [hwritten]
        dsimp only
        rw [ih.2 ⟨rfl, hothers⟩]
        rfl

private theorem writeFiles_error_iff {fault : StorageFault} :
    (writeFiles (m := StateM Session) dir files).run before = (.error fault, after) ↔
      ∃ done file rest middle, files = done ++ file :: rest ∧ WritesAll dir done before middle ∧
        (writeBelow dir file).run middle = (.error fault, after) := by
  induction files generalizing before with
  | nil =>
    constructor
    · intro h
      cases h
    · rintro ⟨done, file, rest, middle, heq, -⟩
      simp at heq
  | cons first others ih =>
    rw [writeFiles_cons_run]
    constructor
    · intro h
      split at h
      · rename_i t hwritten
        split at h
        · cases h
        · rename_i second u hothers
          cases h
          obtain ⟨done, file, rest, middle, rfl, hdone, hfile⟩ := ih.1 hothers
          exact ⟨first :: done, file, rest, middle, rfl, .cons hwritten hdone, hfile⟩
      · rename_i second t hwritten
        cases h
        exact ⟨[], first, others, before, rfl, .nil before, hwritten⟩
    · rintro ⟨done, file, rest, middle, heq, hdone, hfile⟩
      cases hdone with
      | nil =>
        obtain ⟨rfl, rfl⟩ := List.cons_eq_cons.1 heq
        rw [hfile]
      | cons hwritten hothers =>
        obtain ⟨rfl, rfl⟩ := List.cons_eq_cons.1 heq
        rw [hwritten]
        dsimp only
        rw [ih.2 ⟨_, file, rest, middle, rfl, hothers, hfile⟩]

end Runs

section Apart

variable {dir : Path} {files : List OutputFile} {file : OutputFile} {s t : Session}
  {at_ : Location}

def PassedBy (dir : Path) (files : List OutputFile) (at_ : Location) : Prop :=
  ∃ file ∈ files, (dir.join file.path).Passes at_

/-- Whether a file is complete at its place. -/
def IsComplete (dir : Path) (tree : FileTree) (file : OutputFile) : Prop :=
  tree.node? (filePlace dir file) = some (.file file.contents.toUTF8)

/-- Files that do not get into each other's way: they go to different places, none of them by a name
that ends like that of a file beside a target, and no log is kept in one of them. -/
structure AreApart (dir : Path) (files : List OutputFile) (log : Option Path) : Prop where
  distinct : (files.map (filePlace dir)).Nodup
  named : ∀ file ∈ files, ∀ name ∈ (filePlace dir file).getLast?,
    Text.endsWith name ".tmp" = false
  unlogged : ∀ file ∈ files, log.map Path.place ≠ some (filePlace dir file)

def IsAside (dir : Path) (at_ : Location) (file : OutputFile) : Prop :=
  at_ ≠ filePlace dir file ∧ (dir.join file.path).temporary?.map Path.place ≠ some at_

private theorem takeNotice_log (n : Notice) (s : Session) : (s.takeNotice n).log = s.log := by
  unfold Session.takeNotice
  dsimp only
  split
  · split <;> rfl
  · rfl

private theorem takeNotice_node? (n : Notice) (h : s.log.map Path.place ≠ some at_) :
    (s.takeNotice n).tree.node? at_ = s.tree.node? at_ := by
  unfold Session.takeNotice
  dsimp only
  split
  · rename_i path hlog
    split
    · rfl
    · have hat : at_ ≠ path.place := fun heq => h (by rw [hlog, heq]; rfl)
      exact Session.onlyAt_changed (fun after hafter => FileTree.onlyAt_append hafter) at_ hat
  · rfl

private theorem WritesAll.keeps (h : WritesAll dir files s t)
    (hlog : s.log.map Path.place ≠ some at_)
    (haside : ∀ file ∈ files, IsAside dir at_ file) :
    s.tree.Keeps (PassedBy dir files) t.tree at_ := by
  induction h with
  | nil s => exact .refl s.tree at_
  | @cons file rest s t u written _ ih =>
    obtain ⟨hfile, hrest⟩ := List.forall_mem_cons.1 haside
    have houtcome := writeAtomic_outcome written
    have hnotice : (noticeWritten dir file t).tree.node? at_ = t.tree.node? at_ :=
      takeNotice_node? _ (houtcome.log ▸ hlog)
    have hlater := ih (by rw [noticeWritten, takeNotice_log, houtcome.log]; exact hlog) hrest
    refine ((houtcome.others at_ hfile.1 hfile.2).mono ?_).trans
      ((FileTree.Keeps.trans (.inl hnotice) hlater).mono ?_)
    · exact fun at_ hat => ⟨file, List.mem_cons_self, hat⟩
    · exact fun at_ ⟨other, hother, hat⟩ => ⟨other, List.mem_cons_of_mem _ hother, hat⟩

private theorem temporary_ne_of_named (file : OutputFile)
    (h : ∀ name ∈ at_.getLast?, Text.endsWith name ".tmp" = false) :
    (dir.join file.path).temporary?.map Path.place ≠ some at_ := by
  intro heq
  obtain ⟨temporary, htemporary, hplace⟩ := Option.map_eq_some_iff.1 heq
  obtain ⟨name, -, -, hname⟩ := Path.temporary_spec htemporary
  have hlast : at_.getLast? = some (name ++ ".tmp") := by
    rw [← hplace, hname, List.getLast?_concat]
  have hending : Text.endsWith (name ++ ".tmp") ".tmp" = true := by
    rw [Text.endsWith, List.isSuffixOf_iff_suffix, String.toList_append]
    exact List.suffix_append _ _
  rw [h _ hlast] at hending
  cases hending

namespace AreApart

variable {first : OutputFile} {done rest : List OutputFile} {log : Option Path}

private theorem aside {other : OutputFile} (h : AreApart dir files log) (hfile : file ∈ files)
    (hne : filePlace dir file ≠ filePlace dir other) : IsAside dir (filePlace dir file) other :=
  ⟨hne, temporary_ne_of_named other (h.named file hfile)⟩

private theorem of_cons (h : AreApart dir (first :: rest) log) :
    AreApart dir rest log ∧ ∀ other ∈ rest, filePlace dir first ≠ filePlace dir other := by
  obtain ⟨hfirst, hrest⟩ := List.nodup_cons.1 h.distinct
  refine ⟨⟨hrest, fun file hfile => h.named file (List.mem_cons_of_mem _ hfile),
    fun file hfile => h.unlogged file (List.mem_cons_of_mem _ hfile)⟩, ?_⟩
  intro other hother heq
  have hmem : filePlace dir other ∈ rest.map (filePlace dir) := List.mem_map_of_mem hother
  rw [← heq] at hmem
  exact hfirst hmem

private theorem of_append (h : AreApart dir (done ++ rest) log) :
    AreApart dir done log ∧ ∀ earlier ∈ done, ∀ later ∈ rest,
      filePlace dir earlier ≠ filePlace dir later := by
  have hdistinct := h.distinct
  rw [List.map_append, List.nodup_append'] at hdistinct
  refine ⟨⟨hdistinct.1, fun file hfile => h.named file (List.mem_append_left _ hfile),
    fun file hfile => h.unlogged file (List.mem_append_left _ hfile)⟩, ?_⟩
  intro earlier hearlier later hlater heq
  have hmem : filePlace dir later ∈ rest.map (filePlace dir) := List.mem_map_of_mem hlater
  rw [← heq] at hmem
  exact hdistinct.2.2 (List.mem_map_of_mem hearlier) hmem

end AreApart

private theorem WritesAll.complete (h : WritesAll dir files s t)
    (hapart : AreApart dir files s.log) :
    ∀ file ∈ files, IsComplete dir t.tree file := by
  induction h with
  | nil => exact fun file hfile => absurd hfile List.not_mem_nil
  | @cons first rest s t u written others ih =>
    have houtcome := writeAtomic_outcome written
    have hlog : (noticeWritten dir first t).log = s.log := (takeNotice_log _ t).trans houtcome.log
    obtain ⟨hrest, hfirst⟩ := hapart.of_cons
    have hunlogged := hapart.unlogged first List.mem_cons_self
    have hwritten : IsComplete dir (noticeWritten dir first t).tree first := by
      rw [IsComplete, noticeWritten, takeNotice_node? _ (houtcome.log ▸ hunlogged)]
      exact (houtcome.finished rfl).1
    refine List.forall_mem_cons.2 ⟨?_, ih (hlog ▸ hrest)⟩
    refine (others.keeps (hlog ▸ hunlogged) fun other hother => ?_).eq_of_some hwritten
    exact hapart.aside List.mem_cons_self (hfirst other hother)

/-- A run over files that ends with a fault at one of them: those before it are complete, it is itself
as it was or complete, and those after it are as they were. -/
structure StopsAt (dir : Path) (done : List OutputFile) (file : OutputFile)
    (rest : List OutputFile) (before : Session) (fault : StorageFault) (after : Session) : Prop where
  written : ∃ middle, WritesAll dir done before middle ∧
    (writeBelow dir file).run middle = (.error fault, after)
  complete : ∀ earlier ∈ done, IsComplete dir after.tree earlier
  stopped : before.tree.Keeps (PassedBy dir (done ++ [file])) after.tree (filePlace dir file) ∨
    IsComplete dir after.tree file
  untouched : ∀ later ∈ rest,
    before.tree.Keeps (PassedBy dir (done ++ [file])) after.tree (filePlace dir later)

private theorem WritesAll.stopsAt {done rest : List OutputFile} {before middle after : Session}
    {fault : StorageFault} (hdone : WritesAll dir done before middle)
    (hfile : (writeBelow dir file).run middle = (.error fault, after))
    (hapart : AreApart dir (done ++ file :: rest) before.log) :
    StopsAt dir done file rest before fault after := by
  have houtcome := writeAtomic_outcome hfile
  obtain ⟨hdoneApart, hdistinct⟩ := hapart.of_append
  have hpassed {at_ : Location} (hat : PassedBy dir done at_) : PassedBy dir (done ++ [file]) at_ := by
    obtain ⟨other, hother, hpasses⟩ := hat
    exact ⟨other, List.mem_append_left _ hother, hpasses⟩
  have hlast {at_ : Location} (hat : (dir.join file.path).Passes at_) :
      PassedBy dir (done ++ [file]) at_ :=
    ⟨file, List.mem_append_right _ List.mem_cons_self, hat⟩
  have hearly {later : OutputFile} (hlater : later ∈ file :: rest) :
      before.tree.Keeps (PassedBy dir (done ++ [file])) middle.tree (filePlace dir later) := by
    have hmem : later ∈ done ++ file :: rest := List.mem_append_right _ hlater
    refine (hdone.keeps (hapart.unlogged later hmem) fun other hother => ?_).mono fun _ => hpassed
    exact hapart.aside hmem (hdistinct other hother later hlater).symm
  refine ⟨⟨middle, hdone, hfile⟩, ?_, ?_, ?_⟩
  · intro earlier hearlier
    have haside : IsAside dir (filePlace dir earlier) file :=
      hapart.aside (List.mem_append_left _ hearlier)
        (hdistinct earlier hearlier file List.mem_cons_self)
    exact (houtcome.others _ haside.1 haside.2).eq_of_some
      (hdone.complete hdoneApart earlier hearlier)
  · exact houtcome.target.imp_left fun hkept =>
      (hearly List.mem_cons_self).trans (hkept.mono fun _ => hlast)
  · intro later hlater
    have hne : filePlace dir later ≠ filePlace dir file := by
      have hnodup := (List.nodup_append'.1 (List.map_append ▸ hapart.distinct)).2.1
      rw [List.map_cons, List.nodup_cons] at hnodup
      have hmem : filePlace dir later ∈ rest.map (filePlace dir) := List.mem_map_of_mem hlater
      intro heq
      rw [heq] at hmem
      exact hnodup.1 hmem
    have haside : IsAside dir (filePlace dir later) file :=
      hapart.aside (List.mem_append_right _ (List.mem_cons_of_mem _ hlater)) hne
    exact (hearly (List.mem_cons_of_mem _ hlater)).trans
      ((houtcome.others _ haside.1 haside.2).mono fun _ => hlast)

end Apart

/-- Storing files is all or nothing for each file. Writing one leaves its target as it was or
complete, whatever steps fail. Writing several gives all paths in order exactly where all succeed; else
it stops at the first that fails. And a run without an output directory, or on a document with a fault,
changes nothing at all. -/
theorem files_written_atomically :
    (∀ (path : Path) (data : ByteArray) (before after : Session)
        (result : Except StorageFault Unit),
        (writeAtomic (m := StateM Session) path data).run before = (result, after) →
          AtomicOutcome path data before result after) ∧
      (∀ (dir : Path) (files : List OutputFile) (before after : Session) (paths : List Path),
        (writeFiles (m := StateM Session) dir files).run before = (.ok paths, after) ↔
          paths = files.map (fun file => dir.join file.path) ∧
            WritesAll dir files before after) ∧
      (∀ (dir : Path) (files : List OutputFile) (before after : Session),
        AreApart dir files before.log →
          (WritesAll dir files before after → ∀ file ∈ files, IsComplete dir after.tree file) ∧
            ∀ fault, (writeFiles (m := StateM Session) dir files).run before =
                (.error fault, after) →
              ∃ done file rest, files = done ++ file :: rest ∧
                StopsAt dir done file rest before fault after) ∧
      ∀ (doc : Document) (config : GeneratorConfig) (before : Session),
        (doc.generate (m := StateM Session) config none).run before =
            (.error .missingOutput, before) ∧
          ∀ (outDir : Path) (fault : DocumentFault), doc.validate = .error fault →
            (doc.generate (m := StateM Session) config (some outDir)).run before =
              (.error (.invalidDocument fault), before) := by
  refine ⟨fun path data before after result h => writeAtomic_outcome h,
    fun dir files before after paths => writeFiles_ok_iff, ?_, ?_⟩
  · intro dir files before after hapart
    refine ⟨fun hall => hall.complete hapart, fun fault h => ?_⟩
    obtain ⟨done, file, rest, middle, rfl, hdone, hfile⟩ := writeFiles_error_iff.1 h
    exact ⟨done, file, rest, rfl, hdone.stopsAt hfile hapart⟩
  · intro doc config before
    refine ⟨rfl, fun outDir fault hfault => ?_⟩
    unfold Document.validate at hfault
    split at hfault
    · rename_i found hfound
      cases hfault
      unfold Document.generate
      dsimp only
      rw [hfound]
      rfl
    · cases hfault

/-- Three files, and a tree in which the second of them is there already. -/
def threeFiles : List OutputFile :=
  [⟨"index.ts", "export \x7b\x7d;\n"⟩, ⟨"mocks.ts", ""⟩, ⟨"types.ts", "type A = 1;\n"⟩]

/-- A session in which the second file meets a full disk after three bytes. -/
def fullDisk : Session where
  tree := ⟨[(["work", "out", "mocks.ts"], .file "old".toUTF8), (["work", "out"], .directory),
    (["work"], .directory)]⟩
  faults := List.replicate 8 none ++ [some ⟨.other "No space left on device (os error 28)", 3⟩]
  noticed := []
  log := none

/-- What that session meets. -/
def noSpace : StorageFault :=
  .other "No space left on device (os error 28)"

theorem files_written_atomically_fullDisk :
    AreApart ⟨"out"⟩ threeFiles fullDisk.log ∧
      ∃ after, (writeFiles (m := StateM Session) ⟨"out"⟩ threeFiles).run fullDisk =
          (.error noSpace, after) ∧
        ∃ done file rest, threeFiles = done ++ file :: rest ∧
          StopsAt ⟨"out"⟩ done file rest fullDisk noSpace after := by
  have hapart : AreApart ⟨"out"⟩ threeFiles fullDisk.log :=
    ⟨by decide +kernel, by decide +kernel, by decide +kernel⟩
  have hfault : ((writeFiles (m := StateM Session) ⟨"out"⟩ threeFiles).run fullDisk).1 =
      .error noSpace := by decide +kernel
  cases hrun : (writeFiles (m := StateM Session) ⟨"out"⟩ threeFiles).run fullDisk with
  | mk result after =>
    obtain rfl : result = .error noSpace := by
      rw [hrun] at hfault
      exact hfault
    exact ⟨hapart, after, rfl,
      (files_written_atomically.2.2.1 ⟨"out"⟩ threeFiles fullDisk after hapart).2 noSpace hrun⟩

end SchemaMocks
