import Whereabouts.Archive.PersonForm
/-!
# The stored form of presets

A preset is an object with two dates and the fields of a record beside them. All its other members
are taken in before it is known which of them count, so even a member that is passed over must be
sound and must not be nested too deeply.
-/
namespace Whereabouts

namespace Preset

def dateNames : List String := ["dateFrom", "dateTo"]

/-- So many containers may lie within each other in a document that is taken in. -/
def depthLimit : Nat := 127

/-- Whether a member can be taken in inside `outer` containers. -/
def canTake (outer : Nat) (member : String × Json) : Bool :=
  dateNames.contains member.1 || (member.2.isSound && member.2.depth + outer ≤ depthLimit)

/-- The preset with these members, inside `outer` containers. -/
def ofMembers? (outer : Nat) (members : List (String × Json)) : Option Preset := do
  let dates ← Json.known? dateNames members
  let dateFrom ← Json.required? Json.text? dates "dateFrom"
  let dateTo ← Json.required? Json.text? dates "dateTo"
  let fields ← Json.known? Person.fieldNames members
  if members.all (canTake outer) then
    (Person.ofFields? (Status.ofJsonWith? Status.isNullOrEmpty) fields).map fun person =>
      ⟨person, dateFrom, dateTo⟩
  else none

/-- Reads a preset that lies inside `around` containers. -/
def ofJson? (around : Nat) : Json → Option Preset
  | .object members => (Json.named? members).bind (ofMembers? (around + 1))
  | _ => none

def toJson (preset : Preset) : Json :=
  .ofFields (preset.person.fields ++
    [("dateFrom", .ofText preset.dateFrom), ("dateTo", .ofText preset.dateTo)])

end Preset

end Whereabouts
