import Whereabouts.Notice
import Whereabouts.Archive.PersonForm
/-!
# The stored form of notices

A notice has all its fields but the text of its status and the number, which may be missing or null.
As an array it has all seven.
-/
namespace Whereabouts

open Whereabouts.Calendar

namespace Notice

def fieldNames : List String :=
  ["reportedDate", "reported", "subject", "period", "status", "statusText", "tel"]

def toJson (notice : Notice) : Json :=
  .ofFields [("reportedDate", notice.reportedAt.toJson), ("reported", .ofText notice.reporter),
    ("subject", .ofText notice.subject), ("period", .ofText notice.period),
    ("status", notice.status.toJson), ("statusText", .ofOption .ofText notice.statusText),
    ("tel", .ofOption .ofText notice.tel)]

def ofFields? (fields : List (String × Json)) : Option Notice := do
  let reportedAt ← Json.required? Instant.ofJson? fields "reportedDate"
  let reporter ← Json.required? Json.text? fields "reported"
  let subject ← Json.required? Json.text? fields "subject"
  let period ← Json.required? Json.text? fields "period"
  let status ← Json.required? Status.ofJson? fields "status"
  let statusText ← Json.optional? Json.text? fields "statusText"
  let tel ← Json.optional? Json.text? fields "tel"
  some { reportedAt, reporter, subject, period, status, statusText, tel }

def ofJson? (json : Json) : Option Notice :=
  (json.record? fieldNames fieldNames.length).bind ofFields?

end Notice

end Whereabouts
