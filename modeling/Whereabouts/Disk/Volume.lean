import Whereabouts.Table
import Whereabouts.Disk.Basic
import Whereabouts.Disk.Path
/-!
# Volumes

A volume is a disk that can be looked at as a whole: its files and directories by path, below a root
that is always there. It may refuse any request of its choice; requests are counted, so that a
refusal can depend on how many came before. What it does not refuse it serves as the tree allows, and
it lists a directory in any order. A request that fails leaves the tree as it was, except that a
refused write may have spoiled its file.

Only files and directories are on a volume. A path that leads to a pipe, a socket or a link has no
counterpart here.
-/
namespace Whereabouts

inductive Entry where
  | file (content : ByteArray)
  | directory

/-- Files and directories by path. -/
abbrev Tree := Table Entry

namespace Tree

def empty : Tree := Table.empty

/-- Why there is no entry at a path. -/
def absence (path : String) : DiskError :=
  if Path.hasLongName path then .nameTooLong else .missing

/-- Nothing, if all these paths are directories; else what is wrong with the first that is not. -/
def openDirectories (tree : Tree) : (paths : List String) → Except DiskError Unit
  | [] => .ok ()
  | path :: paths =>
    match tree.find? path with
    | some .directory => openDirectories tree paths
    | some (.file _) => .error .notDirectory
    | none => .error (absence path)

/-- The entry at a path, once the directories around it are open. -/
def look (tree : Tree) (path : String) : Except DiskError (Option Entry) := do
  openDirectories tree (Path.prefixes path).dropLast
  return if path = "" then some .directory else tree.find? path

/-- What is wrong with a path as such, if anything is. -/
def fault? (path : String) : Option DiskError :=
  if path.toList.contains '\x00' then
    some (.refused "file name contained an unexpected NUL byte")
  else if Path.longestPath < path.utf8ByteSize then some .nameTooLong
  else none

/-- The plain path of the place that a path leads to, if there are directories all along it. -/
def follow (tree : Tree) (path : String) : Except DiskError String := do
  if let some fault := fault? path then throw fault
  let places := Path.places path
  openDirectories tree (places.dropLast.filter (· ≠ ""))
  return places.getLast?.getD ""

def contentAt (tree : Tree) (path : String) : Except DiskError ByteArray := do
  match ← tree.look path with
  | some (.file content) => return content
  | some .directory => throw .isDirectory
  | none => throw (absence path)

/-- A file of this content, made from the one that was there. -/
def changeFile (tree : Tree) (path : String) (change : Option ByteArray → ByteArray) :
    Except DiskError Tree := do
  match ← tree.look path with
  | some (.file content) => return tree.insert path (.file (change (some content)))
  | some .directory => throw .isDirectory
  | none =>
    if Path.hasLongName path then throw .nameTooLong
    return tree.insert path (.file (change none))

def removeFile (tree : Tree) (path : String) : Except DiskError Tree := do
  match ← tree.look path with
  | some (.file _) => return tree.erase path
  | some .directory => throw .isDirectory
  | none => throw (absence path)

/-- The name of an entry that lies directly in the directory. -/
def nameIn? (directory path : String) : Option String :=
  if path ≠ "" ∧ Path.parent path = directory then
    some (String.ofList (path.toList.drop (Path.join directory "").length))
  else none

def listDirectory (tree : Tree) (path : String) : Except DiskError (List String) := do
  if path ≠ "" then openDirectories tree (Path.prefixes path)
  return tree.keys.filterMap (nameIn? path)

/-- Makes the directories in turn, as far as they are missing. -/
def makeAll (tree : Tree) : (paths : List String) → Except DiskError Tree
  | [] => .ok tree
  | path :: paths =>
    match tree.find? path with
    | some .directory => makeAll tree paths
    | some (.file _) => .error .notDirectory
    | none =>
      if Path.hasLongName path then .error .nameTooLong
      else makeAll (tree.insert path .directory) paths

def makeDirectories (tree : Tree) (path : String) : Except DiskError Tree :=
  tree.makeAll (Path.prefixes path)

/-- Makes the directories in turn, and keeps those made before one that cannot be made. -/
def makeEach (tree : Tree) : (paths : List String) → Tree × Except DiskError Unit
  | [] => (tree, .ok ())
  | path :: paths =>
    match tree.makeAll [path] with
    | .ok tree => makeEach tree paths
    | .error error => (tree, .error error)

/-- Makes the directories along a path that need not be plain. -/
def makeAlong (tree : Tree) (path : String) : Tree × Except DiskError Unit :=
  match fault? path with
  | some fault => (tree, .error fault)
  | none => tree.makeEach ((Path.places path).filter (· ≠ ""))

/-- Removes a file, or a directory with all that is in it. -/
def removeAll (tree : Tree) (path : String) : Option Tree :=
  if (tree.find? path).isSome then
    some (tree.filterMap fun other entry =>
      if (Path.prefixes other).contains path then none else some entry)
  else none

end Tree

/-! ### Requests -/

inductive Access where
  | read (path : String)
  | write (path : String)
  | append (path : String)
  | remove (path : String)
  | list (path : String)
  | makeDirectories (path : String)
deriving DecidableEq

structure Volume where
  tree : Tree
  /-- How many requests were served or refused so far. -/
  served : Nat
  /-- Whether the volume refuses the request of this number. -/
  refuses : Nat → Access → Bool
  /-- What a write leaves in its file if the request of this number is refused; nothing if it did not
  touch the file. -/
  leaves : Nat → Option ByteArray
  /-- The order in which the request of this number lists a directory. -/
  arranges : Nat → List String → List String
  arranged : ∀ request names, (arranges request names).Perm names

namespace Volume

def refusal : DiskError := .refused "Permission denied (os error 13)"

/-- A volume that refuses nothing. -/
def ofTree (tree : Tree) : Volume where
  tree := tree
  served := 0
  refuses _ _ := false
  leaves _ := none
  arranges _ names := names
  arranged _ _ := .refl _

def isRefused (volume : Volume) (access : Access) : Bool := volume.refuses volume.served access

def counted (volume : Volume) : Volume := { volume with served := volume.served + 1 }

/-- The volume after a request that left this tree. -/
def withTree (volume : Volume) (tree : Tree) : Volume := { volume.counted with tree }

/-- The tree after a write to the file was refused. -/
def spoiled (volume : Volume) (path : String) : Tree :=
  match volume.leaves volume.served with
  | none => volume.tree
  | some content => (volume.tree.changeFile path fun _ => content).toOption.getD volume.tree

/-- A request that looks at the tree. -/
def ask {α : Type} (access : Access) (answer : Tree → Except DiskError α) :
    StateM Volume (Except DiskError α) := fun volume =>
  if volume.isRefused access then (.error refusal, volume.counted)
  else (answer volume.tree, volume.counted)

/-- A request that changes the tree; `refused` is the tree that it leaves if it is refused. -/
def change (access : Access) (refused : Volume → Tree) (act : Tree → Except DiskError Tree) :
    StateM Volume (Except DiskError Unit) := fun volume =>
  if volume.isRefused access then (.error refusal, volume.withTree (refused volume))
  else
    match act volume.tree with
    | .ok tree => (.ok (), volume.withTree tree)
    | .error error => (.error error, volume.counted)

/-- The names in a directory, as the volume arranges them. -/
def listed (volume : Volume) (path : String) : Except DiskError (List String) :=
  (volume.tree.listDirectory path).map (volume.arranges volume.served)

instance : Disk (StateM Volume) where
  read path := ask (.read path) (·.contentAt path)
  write path content := change (.write path) (·.spoiled path) (·.changeFile path fun _ => content)
  append path content :=
    change (.append path) (·.spoiled path)
      (·.changeFile path fun old? => old?.getD .empty ++ content)
  remove path := change (.remove path) (·.tree) (·.removeFile path)
  list path := fun volume => ask (.list path) (fun _ => volume.listed path) volume
  makeDirectories path := change (.makeDirectories path) (·.tree) (·.makeDirectories path)

end Volume

end Whereabouts
