import Whereabouts.NoticeIndex
import Whereabouts.Archive.NoticeForm
import Whereabouts.Archive.PresetForm
import Whereabouts.Json.Printer
import Whereabouts.Json.Reader
/-!
# The stored form of tables

The roster, the notices and the presets are documents of their own. The listed alternates are
written on one line.
-/
namespace Whereabouts.Archive

def readWith {α : Type} (read : Json → Option α) (text : List Char) : Option α :=
  (Json.ofText? text).bind read

/-! ### The roster -/

def rosterJson (roster : Roster) : Json := .ofTable Person.toJson roster

def rosterText (roster : Roster) : List Char := (rosterJson roster).pretty

def rosterOfText? (text : List Char) : Option Roster := readWith (Json.table? Person.ofJson?) text

/-! ### Notices -/

def noticesJson (grouped : Grouped) : Json :=
  grouped |> .ofTable fun subjects =>
    subjects |> .ofTable fun notices => .array (notices.map Notice.toJson)

def noticesText (grouped : Grouped) : List Char := (noticesJson grouped).pretty

def noticesOfJson? (json : Json) : Option Grouped :=
  json.table? fun subjects => subjects.table? fun notices => notices.list? Notice.ofJson?

def noticesOfText? (text : List Char) : Option Grouped := readWith noticesOfJson? text

/-! ### Alternates -/

def alternatesJson (listed : Table (List String)) : Json :=
  .ofTable (fun addresses => .array (addresses.map .ofText)) listed

def alternatesText (listed : Table (List String)) : List Char := (alternatesJson listed).compact

def alternatesOfText? (text : List Char) : Option (Table (List String)) :=
  readWith (Json.table? fun addresses => addresses.list? Json.text?) text

/-! ### Presets -/

def presetsOfText? (text : List Char) : Option (Table Preset) :=
  readWith (Json.table? (Preset.ofJson? 1)) text

end Whereabouts.Archive
