import Whereabouts.Base64
import Whereabouts.Managers
import Whereabouts.Disk.Basic
import Whereabouts.Archive.Layout
import Whereabouts.Archive.TableForm
/-!
# The archive

The board's tables as files of a disk. A table whose file is missing loads as empty. The listed
alternates are stored in Base64; the presets may have comment lines, which begin with a hash; the
log of rejections grows by a line for each.
-/
namespace Whereabouts

open Whereabouts.Text Whereabouts.Calendar

inductive ArchiveFault where
  | disk (error : DiskError)
  | json
  | base64
deriving DecidableEq

structure ArchiveError where
  path : String
  fault : ArchiveFault
deriving DecidableEq

def ArchiveError.message (failure : ArchiveError) : String :=
  match failure.fault with
  | .disk error => "I/O error on " ++ failure.path ++ ": " ++ error.message
  | .json => "json error in " ++ failure.path
  | .base64 => "base64 error in " ++ failure.path

/-- A page that the archive publishes. -/
inductive Publication where
  | live
  | absence
  /-- The page of a day that is over. -/
  | backup (date : Date)
deriving DecidableEq

structure Rejection where
  date : Date
  sender : String
  returnPath : String
deriving DecidableEq

namespace Archive

variable {m : Type → Type} [Monad m] [Disk m]

/-! ### Files -/

/-- A request about a file; a failure names the file. -/
def onFile {α : Type} (path : String) (request : ExceptT DiskError m α) :
    ExceptT ArchiveError m α :=
  request.adapt fun error => ⟨path, .disk error⟩

/-- A missing file is no failure. -/
def ifThere {α : Type} (path : String) : Except DiskError α → Except ArchiveError (Option α)
  | .ok value => .ok (some value)
  | .error .missing => .ok none
  | .error error => .error ⟨path, .disk error⟩

def readIfThere (path : String) : ExceptT ArchiveError m (Option String) :=
  ExceptT.mk (ifThere path <$> (Disk.readText path).run)

def write (path : String) (text : List Char) : ExceptT ArchiveError m Unit :=
  onFile path (Disk.writeText path text)

/-- What a file's text decodes to; a value that stands for a missing file. -/
def load {α : Type} (path : String) (missing : α) (decode : List Char → Except ArchiveFault α) :
    ExceptT ArchiveError m α := do
  match ← readIfThere path with
  | none => return missing
  | some text =>
    match decode text.toList with
    | .ok value => return value
    | .error fault => throw ⟨path, fault⟩

/-- A decoder that fails on anything but the JSON it reads. -/
def decodeJson {α : Type} (read : List Char → Option α) (text : List Char) :
    Except ArchiveFault α :=
  match read text with
  | some value => .ok value
  | none => .error .json

/-- Makes the directories of the layout. -/
def prepare (layout : Layout) : ExceptT ArchiveError m Unit :=
  layout.directories.forM fun path => onFile path (ExceptT.mk (Disk.makeDirectories path))

/-! ### Tables -/

def loadRoster (layout : Layout) : ExceptT ArchiveError m Roster :=
  load layout.roster .empty (decodeJson rosterOfText?)

def saveRoster (layout : Layout) (roster : Roster) : ExceptT ArchiveError m Unit :=
  write layout.roster (rosterText roster)

/-- Keeps the roster of a day that is over. -/
def saveSnapshot (layout : Layout) (date : Date) (roster : Roster) : ExceptT ArchiveError m Unit :=
  write (layout.snapshot date) (rosterText roster)

def loadNotices (layout : Layout) : ExceptT ArchiveError m Grouped :=
  load layout.notices .empty (decodeJson noticesOfText?)

def saveNotices (layout : Layout) (grouped : Grouped) : ExceptT ArchiveError m Unit :=
  write layout.notices (noticesText grouped)

/-- The stored text of the alternates, blanks around it aside. -/
def decodeAlternates (text : List Char) : Except ArchiveFault (Table (List String)) :=
  match Base64.decode? (trim text) with
  | none => .error .base64
  | some octets =>
    match String.fromUTF8? (ByteArray.mk octets.toArray) with
    | none => .error .json
    | some json => decodeJson alternatesOfText? json.toList

def encodeAlternates (listed : Table (List String)) : List Char :=
  Base64.encode (String.ofList (alternatesText listed)).toUTF8.toList

def loadAlternates (layout : Layout) : ExceptT ArchiveError m (Table (List String)) :=
  load layout.alternates .empty decodeAlternates

def saveAlternates (layout : Layout) (listed : Table (List String)) : ExceptT ArchiveError m Unit :=
  write layout.alternates (encodeAlternates listed)

/-! ### Files that people edit -/

/-- The text without the lines that begin with a hash. -/
def withoutComments (text : List Char) : List Char :=
  joinWith ['\n'] ((lines text).filter fun line => line.head? ≠ some '#')

def decodePresets (text : List Char) : Except ArchiveFault (Table Preset) :=
  decodeJson presetsOfText? (withoutComments text)

def loadPresets (layout : Layout) : ExceptT ArchiveError m (Table Preset) :=
  load layout.presets .empty decodePresets

def loadManagers (layout : Layout) (domain : String) : ExceptT ArchiveError m Managers :=
  load layout.managers .none fun text => .ok (Managers.ofText domain (String.ofList text))

/-! ### What comes out -/

/-- Date, sender and return path of a rejection. -/
def rejectionLine (rejection : Rejection) : List Char :=
  rejection.date.slashed ++ ", ".toList ++ rejection.sender.toList ++ ", ".toList ++
    rejection.returnPath.toList ++ ['\n']

def logRejection (layout : Layout) (rejection : Rejection) : ExceptT ArchiveError m Unit :=
  onFile layout.rejections (Disk.appendText layout.rejections (rejectionLine rejection))

def pagePath (layout : Layout) : Publication → String
  | .live => layout.livePage
  | .absence => layout.absencePage
  | .backup date => layout.backup date

def publish (layout : Layout) (publication : Publication) (html : String) :
    ExceptT ArchiveError m Unit :=
  write (pagePath layout publication) html.toList

end Archive

end Whereabouts
