import Whereabouts.Text.Find
import Whereabouts.Text.Quoted
import Whereabouts.Calendar.Reading
/-!
# Periods

A period is written as a date, or as a start and an end with a tilde between them. Each is a date,
perhaps with a time; an end may be a time alone, on the day of the start. A day given without a
time counts from midnight to its last minute. Both ends belong to the period.
-/
namespace Whereabouts

open Whereabouts.Text Whereabouts.Calendar

structure Period where
  first : Instant
  last : Instant
deriving DecidableEq

inductive PeriodError where
  /-- The text is not in any known form. -/
  | unrecognised (text : String)
  /-- The end does not come after the start. -/
  | backwards (text : String)
deriving DecidableEq

namespace PeriodError

def message : PeriodError → String
  | unrecognised text => "unrecognised period: " ++ String.ofList (quoted text.toList)
  | backwards text => "period " ++ String.ofList (quoted text.toList) ++ " ends before it starts"

end PeriodError

namespace Period

/-- The full-width tilde, the tilde and the wave dash. -/
def isSeparator (c : Char) : Bool := c == '～' || c == '~' || c == '〜'

/-! ### Endpoints -/

inductive Endpoint where
  | date (date : Date)
  | instant (instant : Instant)
  | time (time : TimeOfDay)
deriving DecidableEq

/-- A date and a time are tried before a date alone, and slashes before dashes. -/
def endpoint? (text : List Char) : Option Endpoint :=
  let text := trim text
  ((Reader.dateAndClock '/').whole text).map .instant
    <|> ((Reader.dateAndClock '-').whole text).map .instant
    <|> ((Reader.date '/').whole text).map .date
    <|> ((Reader.date '-').whole text).map .date
    <|> (Reader.clock.whole text).map .time

/-- A time alone is no start. -/
def Endpoint.asStart? : Endpoint → Option Instant
  | .date day => some (.startOfDay day)
  | .instant moment => some moment
  | .time _ => none

/-- A time alone is on the given day. -/
def Endpoint.asEnd (day : Date) : Endpoint → Instant
  | .date last => .endOfDay last
  | .instant moment => moment
  | .time clock => ⟨day, clock⟩

/-! ### Whole periods -/

/-- The ends as written, in whatever order. -/
def ends? (text : List Char) : Option (Instant × Instant) :=
  match splitAt? isSeparator text with
  | none => do
    let start ← (← endpoint? text).asStart?
    some (start, .endOfDay start.date)
  | some (startText, endText) => do
    let start ← (← endpoint? startText).asStart?
    let last ← endpoint? endText
    some (start, last.asEnd start.date)

def parse (text : String) : Except PeriodError Period :=
  match ends? text.toList with
  | none => .error (.unrecognised text)
  | some (first, last) => if first < last then .ok ⟨first, last⟩ else .error (.backwards text)

def contains (period : Period) (moment : Instant) : Bool :=
  period.first ≤ moment && moment ≤ period.last

example : ends? "2024/05/10".toList =
    (Date.of? 2024 5 10).map fun date => (.startOfDay date, .endOfDay date) := by decide

end Period

end Whereabouts
