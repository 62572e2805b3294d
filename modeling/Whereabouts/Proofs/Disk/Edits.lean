import Whereabouts.Proofs.Archive.Tables
import Whereabouts.Proofs.Disk.Path
/-!
# Edits of a volume

Requests about files make and remove no directory and touch the one path they name. So the directories
of a volume stay as they are, and a file that could be written can be written again.
-/
namespace Whereabouts

/-! ### Trees -/

namespace Tree

variable {tree tree' : Tree} {path : String}

private theorem directory_insert_file {content : ByteArray}
    (noDirectory : tree.find? path ≠ some .directory) (other : String) :
    (tree.insert path (.file content)).find? other = some .directory ↔
      tree.find? other = some .directory := by
  rw [Table.find?_insert]
  split
  next same =>
    subst same
    exact iff_of_false nofun noDirectory
  · rfl

theorem directory_erase (noDirectory : tree.find? path ≠ some .directory) (other : String) :
    (tree.erase path).find? other = some .directory ↔ tree.find? other = some .directory := by
  rw [Table.find?_erase]
  split
  next same =>
    subst same
    exact iff_of_false nofun noDirectory
  · rfl

/-- Around an entry of a directory there are the directory and what is around that. -/
theorem around_of_parent (inside : Path.parent path ≠ "") :
    around path = Path.prefixes (Path.parent path) := by
  cases found : Text.beforeLast? (· == '/') path.toList with
  | none =>
    rw [Path.parent, found] at inside
    exact absurd rfl inside
  | some before =>
    obtain ⟨slash, rest, shape, stop, plain⟩ := Text.beforeLast?_eq_some found
    obtain rfl : slash = '/' := by simpa using stop
    have joined : path = String.ofList before ++ "/" ++ String.ofList rest := by
      rw [← String.toList_inj, shape]
      simp
    have bare : '/' ∉ (String.ofList rest).toList := by
      rw [String.toList_ofList]
      intro member
      simpa using plain '/' member
    have outer := Path.dropLast_prefixes (String.ofList before) bare
    rw [← joined] at outer
    rw [Path.parent, found]
    exact outer

end Tree

/-! ### Volumes -/

namespace Volume

/-- The volume was edited at most at these paths: every other entry is as it was, the directories are
the same everywhere, and so is what is refused. -/
structure EditedAt (touched : String → Prop) (before after : Volume) : Prop where
  entries : ∀ path, ¬ touched path → after.tree.find? path = before.tree.find? path
  directories : ∀ path,
    after.tree.find? path = some .directory ↔ before.tree.find? path = some .directory
  refuses : after.refuses = before.refuses

namespace EditedAt

variable {touched : String → Prop} {before middle after : Volume}

theorem refl (touched : String → Prop) (volume : Volume) : EditedAt touched volume volume :=
  ⟨fun _ _ => rfl, fun _ => .rfl, rfl⟩

theorem trans (first : EditedAt touched before middle) (second : EditedAt touched middle after) :
    EditedAt touched before after where
  entries path untouched := (second.entries path untouched).trans (first.entries path untouched)
  directories path := (second.directories path).trans (first.directories path)
  refuses := second.refuses.trans first.refuses

theorem symm (edited : EditedAt touched before after) : EditedAt touched after before :=
  ⟨fun path untouched => (edited.entries path untouched).symm,
    fun path => (edited.directories path).symm, edited.refuses.symm⟩

theorem mono {touched' : String → Prop} (edited : EditedAt touched before after)
    (wider : ∀ path, touched path → touched' path) : EditedAt touched' before after :=
  { edited with entries := fun path untouched =>
      edited.entries path fun inside => untouched (wider path inside) }

/-- A request that leaves the tree and what is refused as they are is no edit. -/
theorem of_tree (touched : String → Prop) (tree : after.tree = before.tree)
    (refuses : after.refuses = before.refuses) : EditedAt touched before after :=
  ⟨fun _ _ => by rw [tree], fun _ => by rw [tree], refuses⟩

/-- No directory is lost, so every file elsewhere is seen as before. -/
theorem changedAt (edited : EditedAt touched before after) : ChangedAt touched before after where
  files path untouched := by
    refine Tree.fileAt?_congr (fun outer _ => edited.directories outer) fun content => ?_
    rw [edited.entries path untouched]
  refuses := edited.refuses

end EditedAt

private theorem editedAt_insert (volume : Volume) {path : String} {content : ByteArray}
    {tree : Tree} (noDirectory : volume.tree.find? path ≠ some .directory)
    (inserted : tree = volume.tree.insert path (.file content)) :
    EditedAt (· = path) volume (volume.withTree tree) where
  entries other different := by
    subst inserted
    exact (Table.find?_insert ..).trans (if_neg different)
  directories other := by
    subst inserted
    exact Tree.directory_insert_file noDirectory other
  refuses := rfl

/-- A write edits its file at most, whether it is served or not. -/
private theorem editedAt_changeFile (volume : Volume) (access : Access) (path : String)
    (change : Option ByteArray → ByteArray) :
    EditedAt (· = path) volume
      ((Volume.change access (·.spoiled path) (·.changeFile path change)).run volume).2 := by
  change EditedAt _ _ (Volume.change access (·.spoiled path) (·.changeFile path change) volume).2
  rw [Volume.change]
  split
  · rw [spoiled]
    split
    · exact .of_tree _ rfl rfl
    next content _ =>
      cases changed : volume.tree.changeFile path fun _ => content with
      | error error => exact .of_tree _ rfl rfl
      | ok tree =>
        obtain ⟨_, _, noDirectory, inserted⟩ := Tree.changeFile_eq_ok changed
        exact editedAt_insert volume noDirectory inserted
  · split
    next tree changed =>
      obtain ⟨_, _, noDirectory, inserted⟩ := Tree.changeFile_eq_ok changed
      exact editedAt_insert volume noDirectory inserted
    · exact .of_tree _ rfl rfl

/-! ### Files that can be written -/

/-- A file can be written at the path: no write to it is refused, the directories around it are open,
and no directory is in its place. -/
structure Writable (volume : Volume) (path : String) : Prop where
  served : ∀ request, volume.refuses request (.write path) = false
  open_ : ∀ outer ∈ Tree.around path, volume.tree.find? outer = some .directory
  named : path ≠ ""
  noDirectory : volume.tree.find? path ≠ some .directory
  short : Path.hasLongName path = false

theorem Writable.editedAt {touched : String → Prop} {before after : Volume} {path : String}
    (writable : before.Writable path) (edited : EditedAt touched before after) :
    after.Writable path where
  served request := edited.refuses ▸ writable.served request
  open_ outer member := (edited.directories outer).mpr (writable.open_ outer member)
  named := writable.named
  noDirectory := mt (edited.directories path).mp writable.noDirectory
  short := writable.short

private theorem Writable.changeFile {volume : Volume} {path : String}
    (writable : volume.Writable path) (change : Option ByteArray → ByteArray) :
    ∃ tree, volume.tree.changeFile path change = .ok tree := by
  have look : volume.tree.look path = .ok (volume.tree.find? path) :=
    Tree.look_eq_ok.mpr ⟨writable.open_, (if_neg writable.named).symm⟩
  rw [Tree.changeFile, look]
  have noDirectory := writable.noDirectory
  generalize volume.tree.find? path = found? at noDirectory
  rcases found? with _ | (content | _)
  · simp only [writable.short, bind, Except.bind, Bool.false_eq_true, if_false]
    exact ⟨_, rfl⟩
  · exact ⟨_, rfl⟩
  · exact absurd rfl noDirectory

end Volume

namespace Archive

open Volume

/-- A write edits its file at most, and puts the text there if it succeeds. A file that can be written
is written. -/
theorem run_write_edited (volume : Volume) (path : String) (text : List Char) :
    ∃ result volume', (write path text : ExceptT ArchiveError (StateM Volume) Unit).run.run volume =
        pure (result, volume') ∧ volume.EditedAt (· = path) volume' ∧
      (result = .ok () → volume'.fileAt? path = some (String.ofList text).toUTF8) ∧
      (volume.Writable path → result = .ok ()) := by
  have edited := editedAt_changeFile volume (.write path) path fun _ => (String.ofList text).toUTF8
  obtain ⟨_, written⟩ :=
    changedAt_changeFile volume (.write path) path fun _ => (String.ofList text).toUTF8
  refine ⟨_, _, run_onFile volume path _, edited, fun ok => written (mapError_eq_ok.mp ok),
    fun writable => mapError_eq_ok.mpr ?_⟩
  obtain ⟨tree, changed⟩ := writable.changeFile fun _ => (String.ofList text).toUTF8
  have served : volume.isRefused (.write path) = false := writable.served _
  simp only [Disk.write, Volume.change, StateT.run, served, Bool.false_eq_true, if_false, changed]

/-- An addition to the log of rejections edits the log at most. -/
theorem run_logRejection (volume : Volume) (layout : Layout) (rejection : Rejection) :
    ∃ result volume',
      (logRejection layout rejection : ExceptT ArchiveError (StateM Volume) Unit).run.run volume =
        pure (result, volume') ∧ volume.EditedAt (· = layout.rejections) volume' :=
  ⟨_, _, run_onFile volume layout.rejections _,
    editedAt_changeFile volume (.append layout.rejections) layout.rejections fun old? =>
      old?.getD .empty ++ (String.ofList (rejectionLine rejection)).toUTF8⟩

end Archive

end Whereabouts
