import Mathlib.Data.List.Basic
import Whereabouts.Disk.Volume
import Whereabouts.Proofs.Table
/-!
# The files of a tree

A file is there if all directories around it are. A change to one file gives it its new content, or
takes it away, and leaves every other file as it was; it makes and removes no directory, so no file
gets lost behind it.
-/
namespace Whereabouts

namespace Tree

/-- The content of a file, if there is one at the path. -/
def fileAt? (tree : Tree) (path : String) : Option ByteArray := (tree.contentAt path).toOption

/-- The directories that have to be open before anything at the path can be seen. -/
def around (path : String) : List String := (Path.prefixes path).dropLast

theorem openDirectories_eq_ok {tree : Tree} {paths : List String} :
    tree.openDirectories paths = .ok () ↔ ∀ path ∈ paths, tree.find? path = some .directory := by
  induction paths with
  | nil => simp [openDirectories]
  | cons path paths ih =>
    rw [openDirectories, List.forall_mem_cons]
    split
    next open_ => simp [open_, ih]
    next file => simp [file]
    next missing => simp [missing]

theorem look_eq_ok {tree : Tree} {path : String} {found? : Option Entry} :
    tree.look path = .ok found? ↔
      (∀ outer ∈ around path, tree.find? outer = some .directory) ∧
        found? = if path = "" then some .directory else tree.find? path := by
  rw [look, around, ← openDirectories_eq_ok]
  cases tree.openDirectories (Path.prefixes path).dropLast with
  | error error => simp [bind, Except.bind]
  | ok => simp [bind, Except.bind, pure, Except.pure, eq_comm]

theorem contentAt_eq_ok {tree : Tree} {path : String} {content : ByteArray} :
    tree.contentAt path = .ok content ↔ tree.look path = .ok (some (.file content)) := by
  rw [contentAt]
  cases tree.look path with
  | error error => simp [bind, Except.bind]
  | ok found? =>
    match found? with
    | some (.file other) => simp [bind, Except.bind, pure, Except.pure]
    | some .directory => simp [bind, Except.bind, throw, throwThe, MonadExceptOf.throw]
    | none => simp [bind, Except.bind, throw, throwThe, MonadExceptOf.throw]

theorem fileAt?_iff_contentAt {tree : Tree} {path : String} {content : ByteArray} :
    tree.fileAt? path = some content ↔ tree.contentAt path = .ok content := by
  rw [fileAt?]
  cases tree.contentAt path <;> simp [Except.toOption]

theorem fileAt?_eq_some {tree : Tree} {path : String} {content : ByteArray} :
    tree.fileAt? path = some content ↔
      (∀ outer ∈ around path, tree.find? outer = some .directory) ∧ path ≠ "" ∧
        tree.find? path = some (.file content) := by
  rw [fileAt?_iff_contentAt, contentAt_eq_ok, look_eq_ok, and_congr_right_iff]
  intro _
  by_cases root : path = ""
  · simp [root]
  · simp [root, eq_comm]

theorem fileAt?_of_vacant {tree : Tree} {path : String} (vacant : tree.find? path = none) :
    tree.fileAt? path = none := by
  rw [Option.eq_none_iff_forall_ne_some]
  intro content there
  have found := (fileAt?_eq_some.mp there).2.2
  rw [vacant] at found
  cases found

/-- A file is missing if the directories around it are there and it is not. -/
theorem contentAt_of_vacant {tree : Tree} {path : String}
    (open_ : ∀ outer ∈ around path, tree.find? outer = some .directory) (named : path ≠ "")
    (vacant : tree.find? path = none) (short : Path.hasLongName path = false) :
    tree.contentAt path = .error .missing := by
  have look : tree.look path = .ok none := look_eq_ok.mpr ⟨open_, by rw [if_neg named, vacant]⟩
  rw [contentAt, look]
  simp [bind, Except.bind, throw, throwThe, MonadExceptOf.throw, absence, short]

/-- Whether two trees have the same file at the path depends on that path and the directories around
it alone. -/
theorem fileAt?_congr {tree tree' : Tree} {path : String}
    (around_ : ∀ outer ∈ around path,
      tree'.find? outer = some .directory ↔ tree.find? outer = some .directory)
    (here : ∀ content, tree'.find? path = some (.file content) ↔
      tree.find? path = some (.file content)) :
    tree'.fileAt? path = tree.fileAt? path := by
  apply Option.ext
  intro content
  rw [fileAt?_eq_some, fileAt?_eq_some, here]
  exact and_congr_left fun _ => forall₂_congr around_

/-! ### Changes -/

/-- What a change needs: open directories, and at the path a file or nothing. -/
theorem changeFile_eq_ok {tree tree' : Tree} {path : String}
    {change : Option ByteArray → ByteArray} (changed : tree.changeFile path change = .ok tree') :
    (∀ outer ∈ around path, tree.find? outer = some .directory) ∧ path ≠ "" ∧
      tree.find? path ≠ some .directory ∧
        tree' = tree.insert path (.file (change (tree.fileAt? path))) := by
  rw [changeFile] at changed
  cases found : tree.look path with
  | error error => simp [found, bind, Except.bind] at changed
  | ok found? =>
    obtain ⟨open_, same⟩ := look_eq_ok.mp found
    match found? with
    | some .directory => simp [found, bind, Except.bind, throw, throwThe, MonadExceptOf.throw] at changed
    | some (.file content) =>
      have root : path ≠ "" := fun root => by simp [root] at same
      rw [if_neg root] at same
      have here : tree.fileAt? path = some content := fileAt?_eq_some.mpr ⟨open_, root, same.symm⟩
      simp only [found, bind, Except.bind, pure, Except.pure, Except.ok.injEq] at changed
      exact ⟨open_, root, by simp [← same], by rw [here, ← changed]⟩
    | none =>
      have root : path ≠ "" := fun root => by simp [root] at same
      rw [if_neg root] at same
      have here : tree.fileAt? path = none := by
        rw [Option.eq_none_iff_forall_ne_some]
        intro content there
        simp [(fileAt?_eq_some.mp there).2.2] at same
      simp only [found, bind, Except.bind] at changed
      split at changed
      · cases changed
      · simp only [pure, Except.pure, Except.ok.injEq] at changed
        exact ⟨open_, root, by simp [← same], by rw [here, ← changed]⟩

/-- What lies elsewhere is left alone, and every directory is still one. -/
theorem find?_changeFile {tree tree' : Tree} {path : String}
    {change : Option ByteArray → ByteArray} (changed : tree.changeFile path change = .ok tree') :
    (∀ other, other ≠ path → tree'.find? other = tree.find? other) ∧
      ∀ other, tree.find? other = some .directory → tree'.find? other = some .directory := by
  obtain ⟨_, _, noDirectory, rfl⟩ := changeFile_eq_ok changed
  have elsewhere (other : String) (different : other ≠ path) :
      (tree.insert path (.file (change (tree.fileAt? path)))).find? other = tree.find? other := by
    simp [different]
  refine ⟨elsewhere, fun other directory => ?_⟩
  have different : other ≠ path := fun same => noDirectory (same ▸ directory)
  rw [elsewhere other different, directory]

theorem fileAt?_changeFile {tree tree' : Tree} {path : String}
    {change : Option ByteArray → ByteArray} (changed : tree.changeFile path change = .ok tree')
    (other : String) :
    tree'.fileAt? other =
      if other = path then some (change (tree.fileAt? path)) else tree.fileAt? other := by
  obtain ⟨open_, root, noDirectory, rfl⟩ := changeFile_eq_ok changed
  split
  next same =>
    subst same
    refine fileAt?_eq_some.mpr ⟨fun outer member => ?_, root, by simp⟩
    -- The path itself is no directory, so none of those around it was replaced.
    have different : outer ≠ other := fun same => noDirectory (same ▸ open_ outer member)
    simp [different, open_ outer member]
  next different =>
    refine fileAt?_congr (fun outer _ => ?_) fun content => by simp [different]
    by_cases here : outer = path
    · simp [here, noDirectory]
    · simp [here]

theorem removeFile_eq_ok {tree tree' : Tree} {path : String} :
    tree.removeFile path = .ok tree' ↔
      (∃ content, tree.fileAt? path = some content) ∧ tree' = tree.erase path := by
  simp only [fileAt?_iff_contentAt, contentAt_eq_ok]
  rw [removeFile]
  cases tree.look path with
  | error error => simp [bind, Except.bind]
  | ok found? =>
    match found? with
    | some (.file content) => simp [bind, Except.bind, pure, Except.pure, eq_comm]
    | some .directory => simp [bind, Except.bind, throw, throwThe, MonadExceptOf.throw]
    | none => simp [bind, Except.bind, throw, throwThe, MonadExceptOf.throw]

theorem fileAt?_removeFile {tree tree' : Tree} {path : String}
    (removed : tree.removeFile path = .ok tree') (other : String) :
    tree'.fileAt? other = if other = path then none else tree.fileAt? other := by
  obtain ⟨⟨content, there⟩, rfl⟩ := removeFile_eq_ok.mp removed
  obtain ⟨_, _, file⟩ := fileAt?_eq_some.mp there
  split
  next same =>
    subst same
    rw [Option.eq_none_iff_forall_ne_some]
    intro content left
    simpa using (fileAt?_eq_some.mp left).2.2
  next different =>
    refine fileAt?_congr (fun outer _ => ?_) fun content => by simp [different]
    by_cases here : outer = path
    · simp [here, file]
    · simp [here]

/-! ### Directories -/

/-- Directories that were made are there, besides those that were there already. -/
theorem find?_makeAll {tree tree' : Tree} {paths : List String}
    (made : tree.makeAll paths = .ok tree') :
    (∀ path ∈ paths, tree'.find? path = some .directory) ∧
      ∀ path, tree.find? path = some .directory → tree'.find? path = some .directory := by
  induction paths generalizing tree with
  | nil =>
    cases made
    simp
  | cons path paths ih =>
    rw [makeAll] at made
    split at made
    next there =>
      obtain ⟨all, kept⟩ := ih made
      exact ⟨List.forall_mem_cons.mpr ⟨kept path there, all⟩, kept⟩
    · cases made
    next missing =>
      split at made
      · cases made
      obtain ⟨all, kept⟩ := ih made
      refine ⟨List.forall_mem_cons.mpr ⟨kept path (by simp), all⟩, fun other there => ?_⟩
      -- Nothing was there where a directory was made, so none was lost.
      have different : other ≠ path := by
        rintro rfl
        simp [missing] at there
      exact kept other (by simp [different, there])

end Tree

/-! ### Requests to a volume -/

namespace Volume

/-- The content of a file on the volume, if there is one at the path. -/
def fileAt? (volume : Volume) (path : String) : Option ByteArray := volume.tree.fileAt? path

/-- The volume changed at most at these files, and it refuses what it refused before. -/
structure ChangedAt (touched : String → Prop) (before after : Volume) : Prop where
  files : ∀ path, ¬ touched path → after.fileAt? path = before.fileAt? path
  refuses : after.refuses = before.refuses

namespace ChangedAt

variable {touched : String → Prop} {before middle after : Volume}

theorem refl (touched : String → Prop) (volume : Volume) : ChangedAt touched volume volume :=
  ⟨fun _ _ => rfl, rfl⟩

theorem trans (first : ChangedAt touched before middle) (second : ChangedAt touched middle after) :
    ChangedAt touched before after :=
  ⟨fun path untouched => (second.files path untouched).trans (first.files path untouched),
    second.refuses.trans first.refuses⟩

theorem mono {touched' : String → Prop} (changed : ChangedAt touched before after)
    (wider : ∀ path, touched path → touched' path) : ChangedAt touched' before after :=
  ⟨fun path untouched => changed.files path fun inside => untouched (wider path inside),
    changed.refuses⟩

theorem counted (touched : String → Prop) (volume : Volume) :
    ChangedAt touched volume volume.counted := ⟨fun _ _ => rfl, rfl⟩

end ChangedAt

/-- A request that succeeds changed the tree as it should, and not what is refused. -/
theorem tree_of_change {volume volume' : Volume} {access : Access} {refused : Volume → Tree}
    {act : Tree → Except DiskError Tree}
    (done : (Volume.change access refused act).run volume = pure (.ok (), volume')) :
    act volume.tree = .ok volume'.tree ∧ volume'.refuses = volume.refuses := by
  change Volume.change access refused act volume = (.ok (), volume') at done
  rw [Volume.change] at done
  split at done
  · cases done
  · split at done
    next acted =>
      cases done
      exact ⟨acted, rfl⟩
    · cases done

/-- A refused write leaves the other files alone. -/
private theorem changedAt_spoiled (volume : Volume) (path : String) :
    ChangedAt (· = path) volume (volume.withTree (volume.spoiled path)) := by
  refine ⟨fun other different => ?_, rfl⟩
  change Tree.fileAt? (volume.spoiled path) other = volume.tree.fileAt? other
  rw [spoiled]
  split
  · rfl
  next content _ =>
    -- The file may be impossible to write; then nothing was spoiled at all.
    cases changed : volume.tree.changeFile path fun _ => content with
    | error error => rfl
    | ok tree =>
      have file := Tree.fileAt?_changeFile changed other
      rw [if_neg different] at file
      exact file

/-- A write that succeeds puts the content into the file; any write touches that file alone. -/
theorem changedAt_changeFile (volume : Volume) (access : Access) (path : String)
    (change : Option ByteArray → ByteArray) :
    let request := Volume.change access (·.spoiled path) (·.changeFile path change)
    ChangedAt (· = path) volume (request.run volume).2 ∧
      ((request.run volume).1 = .ok () →
        (request.run volume).2.fileAt? path = some (change (volume.fileAt? path))) := by
  intro request
  change ChangedAt _ _ (request volume).2 ∧ ((request volume).1 = _ → (request volume).2.fileAt? _ = _)
  simp only [request, Volume.change]
  split
  · exact ⟨changedAt_spoiled volume path, nofun⟩
  · split
    next tree changed =>
      refine ⟨⟨fun other different => ?_, rfl⟩, fun _ => ?_⟩
      · have file := Tree.fileAt?_changeFile changed other
        rw [if_neg different] at file
        exact file
      · have file := Tree.fileAt?_changeFile changed path
        rw [if_pos rfl] at file
        exact file
    · exact ⟨.counted _ volume, nofun⟩

end Volume

end Whereabouts
