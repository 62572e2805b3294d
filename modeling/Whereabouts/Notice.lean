import Whereabouts.Period
import Whereabouts.Person
/-!
# Notices

A notice tells that somebody is away for a period. Anybody may report it about anybody. It is of
use if it names a person and its period can be read.
-/
namespace Whereabouts

open Whereabouts.Calendar

structure Notice where
  reportedAt : Instant
  reporter : String
  /-- The address of the person who is away. -/
  subject : String
  /-- The period as it was written. -/
  period : String
  status : Status
  statusText : Option String
  tel : Option String
deriving DecidableEq

namespace Notice

def interval (notice : Notice) : Except PeriodError Period := Period.parse notice.period

def isValid (notice : Notice) : Bool :=
  notice.subject ≠ "" && notice.interval.toBool

def covers (notice : Notice) (moment : Instant) : Bool :=
  match notice.interval with
  | .ok period => period.contains moment
  | .error _ => false

/-- Whether the period has not ended before `reference`. -/
def lastsTo (notice : Notice) (reference : Instant) : Bool :=
  match notice.interval with
  | .ok period => reference ≤ period.last
  | .error _ => false

/-- The record that stands in for the person while the notice holds. -/
def project (notice : Notice) : Person :=
  { Person.blank with
    morning := notice.status, afternoon := notice.status,
    morningText := notice.statusText, afternoonText := notice.statusText,
    tel := notice.tel, reportedBy := some notice.reporter }

/-- The reason as written, or else the name of the status. -/
def reason (notice : Notice) : String :=
  match notice.statusText with
  | some text => if text = "" then notice.status.name else text
  | none => notice.status.name

/-- Period, reason and reporter on one line. -/
def summary (notice : Notice) : String :=
  notice.period ++ " " ++ notice.reason ++ "（" ++ notice.reporter ++ "）"

end Notice

end Whereabouts
