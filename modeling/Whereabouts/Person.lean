import Whereabouts.Table
import Whereabouts.Text.Quoted
import Whereabouts.Calendar.Reading
import Whereabouts.Status
/-!
# People

What the board knows of one person on the current day, the roster of everybody who wrote in, and
presets: records that hold for a person over a range of dates without any mail, such as a long
leave.
-/
namespace Whereabouts

open Whereabouts.Calendar

structure Person where
  morning : Status
  afternoon : Status
  morningText : Option String
  afternoonText : Option String
  tel : Option String
  /-- The person's day is over. -/
  finished : Bool
  firstReceived : Option Instant
  lastReceived : Option Instant
  /-- Who reported the absence this record was made from; mail from the person never sets it. -/
  reportedBy : Option String
deriving DecidableEq

namespace Person

/-- A record of somebody of whom nothing is known yet. -/
def blank : Person :=
  { morning := .contact, afternoon := .contact, morningText := none, afternoonText := none,
    tel := none, finished := false, firstReceived := none, lastReceived := none,
    reportedBy := none }

instance : Inhabited Person := ⟨blank⟩

/-- The record after mail came in: the first mail opens it, and each later one moves only the time
of the last. -/
def heardFrom (received : Instant) : Option Person → Person
  | none => { blank with firstReceived := some received }
  | some person => { person with lastReceived := some received }

end Person

/-! ### Presets -/

structure Preset where
  person : Person
  dateFrom : String
  dateTo : String
deriving DecidableEq

inductive PresetError where
  /-- The field does not hold a date. -/
  | invalidDate (field value : String)
deriving DecidableEq

def PresetError.message : PresetError → String
  | invalidDate field value =>
    "invalid date in " ++ field ++ ": " ++ String.ofList (Text.quoted value.toList)

namespace Preset

def dateIn (field value : String) : Except PresetError Date :=
  match Date.ofSlashed? (Text.trim value.toList) with
  | some date => .ok date
  | none => .error (.invalidDate field value)

/-- From the start of the first date to the last minute of the last. -/
def window (preset : Preset) : Except PresetError (Instant × Instant) := do
  let first ← dateIn "dateFrom" preset.dateFrom
  let last ← dateIn "dateTo" preset.dateTo
  return (.startOfDay first, .endOfDay last)

/-- The ends of the window do not belong to it. -/
def holdsAt (preset : Preset) (now : Instant) : Except PresetError Bool := do
  let (first, last) ← preset.window
  return first < now && now < last

end Preset

/-! ### The roster -/

/-- Everybody's record, by address. -/
abbrev Roster := Table Person

structure Seeding where
  applied : Nat
  /-- The accounts of presets whose dates cannot be read. -/
  invalid : List String
deriving DecidableEq

namespace Roster

def touch (roster : Roster) (address : String) (received : Instant) : Roster :=
  roster.alter address fun person? => some (Person.heardFrom received person?)

/-- One preset: its record takes the place of the person's if it holds now. -/
def seedOne (now : Instant) (seeded : Roster × Seeding) (entry : String × Preset) :
    Roster × Seeding :=
  match entry.2.holdsAt now with
  | .ok true =>
    (seeded.1.insert entry.1 entry.2.person, { seeded.2 with applied := seeded.2.applied + 1 })
  | .ok false => seeded
  | .error _ => (seeded.1, { seeded.2 with invalid := seeded.2.invalid ++ [entry.1] })

/-- The roster with every preset that holds now. -/
def seed (roster : Roster) (presets : Table Preset) (now : Instant) : Roster × Seeding :=
  presets.entries.foldl (seedOne now) (roster, ⟨0, []⟩)

end Roster

end Whereabouts
