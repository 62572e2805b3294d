import Whereabouts.Disk.Path
import Whereabouts.Calendar.Written
/-!
# Layouts

Where the archive keeps its files. Backups are named by their date, so two dates never share one.
-/
namespace Whereabouts.Archive

open Whereabouts.Calendar

structure Layout where
  /-- Holds the tables, the files people edit and the log of rejections. -/
  stateDirectory : String
  livePage : String
  absencePage : String
  /-- Yesterday's pages, by date. -/
  backupDirectory : String
  /-- Yesterday's rosters, by date. -/
  snapshotDirectory : String
deriving DecidableEq

namespace Layout

/-- The usual places below one directory. -/
def below (root : String) : Layout where
  stateDirectory := Path.join root "state"
  livePage := Path.join root "output/index.html"
  absencePage := Path.join root "output/absence.html"
  backupDirectory := Path.join root "output/bk"
  snapshotDirectory := Path.join root "state/bk"

def state (layout : Layout) (name : String) : String := Path.join layout.stateDirectory name

def roster (layout : Layout) : String := layout.state "status.json"

def notices (layout : Layout) : String := layout.state "absence.json"

def alternates (layout : Layout) : String := layout.state "alternate.bin"

def presets (layout : Layout) : String := layout.state "initialValue.txt"

def managers (layout : Layout) : String := layout.state "managers.txt"

def rejections (layout : Layout) : String := layout.state "rejected.txt"

def backup (layout : Layout) (date : Date) : String :=
  Path.join layout.backupDirectory (String.ofList (date.compact ++ ".html".toList))

def snapshot (layout : Layout) (date : Date) : String :=
  Path.join layout.snapshotDirectory (String.ofList (date.compact ++ ".json".toList))

/-- The directories that have to be there. -/
def directories (layout : Layout) : List String :=
  [layout.stateDirectory, layout.backupDirectory, layout.snapshotDirectory,
    Path.parent layout.livePage, Path.parent layout.absencePage].filter (· ≠ "")

end Layout

end Whereabouts.Archive
