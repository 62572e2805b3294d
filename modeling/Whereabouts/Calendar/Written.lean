import Whereabouts.Text.Decimal
import Whereabouts.Calendar.Instant
/-!
# Written dates and times

A year from 0 to 9999 has four digits; any other year has a sign and at least four. Month, day,
hour, minute and second have two digits each.
-/
namespace Whereabouts.Calendar

open Whereabouts.Text

def yearText (year : Int) : List Char :=
  if 0 ≤ year ∧ year ≤ 9999 then fixed 4 year.toNat
  else (if year < 0 then '-' else '+') :: padded 4 year.natAbs

namespace Date

/-- Year, month and day with `separator` between them. -/
def written (separator : List Char) (date : Date) : List Char :=
  yearText date.year ++ separator ++ fixed 2 date.month ++ separator ++ fixed 2 date.day

def slashed (date : Date) : List Char := date.written ['/']

def dashed (date : Date) : List Char := date.written ['-']

/-- Year, month and day without separators, as they stand in file names. -/
def compact (date : Date) : List Char := date.written []

end Date

namespace TimeOfDay

/-- Hour and minute. -/
def clock (time : TimeOfDay) : List Char := fixed 2 time.hour ++ [':'] ++ fixed 2 time.minute

/-- The fraction of a second in the fewest of three, six or nine digits that lose nothing. -/
def fractionText (nanosecond : Nat) : List Char :=
  if nanosecond = 0 then []
  else if nanosecond % 1000000 = 0 then '.' :: fixed 3 (nanosecond / 1000000)
  else if nanosecond % 1000 = 0 then '.' :: fixed 6 (nanosecond / 1000)
  else '.' :: fixed 9 nanosecond

def written (time : TimeOfDay) : List Char :=
  time.clock ++ [':'] ++ fixed 2 time.second ++ fractionText time.nanosecond

end TimeOfDay

namespace Instant

/-- Date and time with a T between them. -/
def written (moment : Instant) : List Char := moment.date.dashed ++ ['T'] ++ moment.time.written

/-- Date and clock time, as they stand on a page. -/
def onPage (moment : Instant) : List Char := moment.date.slashed ++ [' '] ++ moment.time.clock

end Instant

example : (⟨2024, 5, 10, by decide⟩ : Date).dashed = "2024-05-10".toList := by decide
example : yearText (-1) = "-0001".toList := by decide

end Whereabouts.Calendar
