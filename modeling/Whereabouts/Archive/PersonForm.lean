import Whereabouts.Calendar.Written
import Whereabouts.Person
import Whereabouts.Json.Record
/-!
# The stored form of people

Statuses are written by name and instants as text. A record of a person may lack any field, and then
the blank record's value holds; who reported an absence is written only if it is known.
-/
namespace Whereabouts

open Whereabouts.Calendar

/-! ### Statuses and instants -/

namespace Status

def toJson (status : Status) : Json := .ofText status.name

/-- A status by name, or as an object whose only member has that name and nothing for a value. -/
def ofJsonWith? (isNothing : Json → Bool) : Json → Option Status
  | .string text? => text?.bind ofName?
  | .object [(name?, value)] => if isNothing value then name?.bind ofName? else none
  | _ => none

def isNull : Json → Bool
  | .null => true
  | _ => false

/-- Null, or an object without members. -/
def isNullOrEmpty : Json → Bool
  | .null => true
  | .object [] => true
  | _ => false

def ofJson? (json : Json) : Option Status := ofJsonWith? isNull json

end Status

def Calendar.Instant.toJson (moment : Instant) : Json := .ofText (String.ofList moment.written)

def Calendar.Instant.ofJson? (json : Json) : Option Instant :=
  json.text?.bind fun text => Instant.ofText? text.toList

/-! ### Records -/

namespace Person

def fieldNames : List String :=
  ["statusAM", "statusPM", "statusAMText", "statusPMText", "tel", "finished", "firstReceived",
    "lastReceived", "absenceReported"]

def fields (person : Person) : List (String × Json) :=
  [("statusAM", person.morning.toJson), ("statusPM", person.afternoon.toJson),
    ("statusAMText", .ofOption .ofText person.morningText),
    ("statusPMText", .ofOption .ofText person.afternoonText),
    ("tel", .ofOption .ofText person.tel), ("finished", .bool person.finished),
    ("firstReceived", .ofOption Instant.toJson person.firstReceived),
    ("lastReceived", .ofOption Instant.toJson person.lastReceived)] ++
    match person.reportedBy with
    | none => []
    | some reporter => [("absenceReported", .ofText reporter)]

def toJson (person : Person) : Json := .ofFields person.fields

def ofFields? (readStatus : Json → Option Status) (fields : List (String × Json)) : Option Person :=
  do
  let morning ← Json.defaulted? readStatus .contact fields "statusAM"
  let afternoon ← Json.defaulted? readStatus .contact fields "statusPM"
  let morningText ← Json.optional? Json.text? fields "statusAMText"
  let afternoonText ← Json.optional? Json.text? fields "statusPMText"
  let tel ← Json.optional? Json.text? fields "tel"
  let finished ← Json.defaulted? Json.bool? false fields "finished"
  let firstReceived ← Json.optional? Instant.ofJson? fields "firstReceived"
  let lastReceived ← Json.optional? Instant.ofJson? fields "lastReceived"
  let reportedBy ← Json.optional? Json.text? fields "absenceReported"
  some { morning, afternoon, morningText, afternoonText, tel, finished, firstReceived, lastReceived,
         reportedBy }

def ofJson? (json : Json) : Option Person :=
  (json.record? fieldNames 0).bind (ofFields? Status.ofJson?)

end Person

end Whereabouts
