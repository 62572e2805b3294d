import Whereabouts.Text.Blank
import Whereabouts.Text.Decimal
import Whereabouts.Calendar.Instant
/-!
# Reading dates and times

Dates and times are read leniently. Blanks may stand before any number; a number has at least one
digit and at most as many as its place allows; only a year has a sign, and a signed year any number
of digits. A reader takes what it needs from the front of a text and gives back the rest.
-/
namespace Whereabouts.Calendar

open Whereabouts.Text

abbrev Reader (α : Type) := List Char → Option (α × List Char)

namespace Reader

/-- The reader has to use up the whole text. -/
def whole {α : Type} (reader : Reader α) (text : List Char) : Option α :=
  match reader text with
  | some (value, []) => some value
  | _ => none

/-! ### Parts -/

def blanks : Reader Unit := fun text => some ((), text.dropWhile isBlank)

def mark (wanted : Char) : Reader Unit
  | [] => none
  | c :: text => if c = wanted then some ((), text) else none

/-- One to `most` digits. -/
def digitRun (most : Nat) : Reader (List Char) := fun text =>
  let run := (text.take most).takeWhile isDigit
  if run.isEmpty then none else some (run, text.drop run.length)

def number (most : Nat) : Reader Nat := fun text => do
  let (run, text) ← digitRun most (text.dropWhile isBlank)
  some (value run, text)

def year : Reader Int := fun text =>
  match text.dropWhile isBlank with
  | '-' :: text => do
    let (run, text) ← digitRun text.length text
    some (-(value run : Int), text)
  | '+' :: text => do
    let (run, text) ← digitRun text.length text
    some ((value run : Int), text)
  | text => do
    let (run, text) ← digitRun 4 text
    some ((value run : Int), text)

/-- A point and a fraction of a second; without a point there is none. Digits beyond the
nanoseconds are passed over. -/
def fraction : Reader Nat
  | '.' :: text => do
    let (run, text) ← digitRun 9 text
    some (value (run ++ List.replicate (9 - run.length) '0'), text.dropWhile isDigit)
  | text => some (0, text)

/-! ### Dates and times as people write them -/

/-- Year, month and day with `separator` between them. -/
def date (separator : Char) : Reader Date := fun text => do
  let (year, text) ← year text
  let ((), text) ← mark separator text
  let (month, text) ← number 2 text
  let ((), text) ← mark separator text
  let (day, text) ← number 2 text
  let date ← Date.of? year month day
  some (date, text)

/-- Hour and minute. -/
def clock : Reader TimeOfDay := fun text => do
  let (hour, text) ← number 2 text
  let ((), text) ← mark ':' text
  let (minute, text) ← number 2 text
  let time ← TimeOfDay.of? hour minute 0 0
  some (time, text)

/-- A date and a clock time after it; blanks may lie between them. -/
def dateAndClock (separator : Char) : Reader Instant := fun text => do
  let (date, text) ← date separator text
  let (time, text) ← clock text
  some (⟨date, time⟩, text)

/-! ### Instants as they are stored -/

/-- Date, a T, and the time to the second or finer; blanks may also lie before a mark and at the
end. -/
def instant : Reader Instant := fun text => do
  let (year, text) ← year text
  let ((), text) ← blanks text
  let ((), text) ← mark '-' text
  let (month, text) ← number 2 text
  let ((), text) ← blanks text
  let ((), text) ← mark '-' text
  let (day, text) ← number 2 text
  let ((), text) ← blanks text
  let ((), text) ← mark 'T' text
  let (hour, text) ← number 2 text
  let ((), text) ← blanks text
  let ((), text) ← mark ':' text
  let (minute, text) ← number 2 text
  let ((), text) ← blanks text
  let ((), text) ← mark ':' text
  let (second, text) ← number 2 text
  let (nanosecond, text) ← fraction text
  let ((), text) ← blanks text
  let date ← Date.of? year month day
  let time ← TimeOfDay.of? hour minute second nanosecond
  some (⟨date, time⟩, text)

end Reader

def Date.ofSlashed? (text : List Char) : Option Date := (Reader.date '/').whole text

def Instant.ofText? (text : List Char) : Option Instant := Reader.instant.whole text

example : Date.ofSlashed? "2024/02/30".toList = none := by decide
example : (Instant.ofText? "2024-5-1T8:5:0".toList).map (·.time.minute) = some 5 := by decide

end Whereabouts.Calendar
