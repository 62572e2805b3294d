import Whereabouts.Calendar.Written
import Whereabouts.Notice
import Whereabouts.Page.Escape
/-!
# Cells

What the board shows for one person at one moment. The person's own record counts; without one,
the newest notice that covers the moment stands in; without either, nothing is known. Up to and
with the hour of noon the morning's status is shown, then the afternoon's, and in the end that the
day is over.
-/
namespace Whereabouts.Page

open Whereabouts.Calendar

structure Cell where
  shown : Shown
  /-- Text of the page, already escaped. -/
  text : List Char
  /-- The contact number as it was written. -/
  tel : Option String
  /-- Who reported the absence, if a notice stands in. -/
  reportedBy : Option String
deriving DecidableEq

def lastMorningHour : Nat := 12

/-- So many characters of a half day's text are shown. -/
def remarkLength : Nat := 2

def Cell.unknown : Cell := ⟨.unknown, "（不明）".toList, none, none⟩

def shownAt (person : Person) (now : Instant) : Shown :=
  if person.finished then .home
  else if now.time.hour ≤ lastMorningHour then .declared person.morning
  else .declared person.afternoon

/-- A half day: its name and the start of its text, or a dash if it has none. -/
def halfDay (name : String) (remark : Option String) : List Char :=
  match remark with
  | none => name.toList ++ ['-']
  | some text => name.toList ++ escape (text.toList.take remarkLength)

/-- A blank and the clock time, if there is a time. -/
def receivedText (received : Option Instant) : List Char :=
  match received with
  | none => []
  | some moment => ' ' :: moment.time.clock

/-- Both half days, when mail came, and whether the day is over. -/
def personText (person : Person) : List Char :=
  "（".toList ++ halfDay "AM" person.morningText ++ [' '] ++ halfDay "PM" person.afternoonText ++
    receivedText person.firstReceived ++ receivedText person.lastReceived ++
    (if person.finished then " 勤務終了".toList else []) ++ "）".toList

def Cell.ofPerson (person : Person) (now : Instant) : Cell :=
  ⟨shownAt person now, personText person, person.tel, person.reportedBy⟩

/-- The notices are given newest first. -/
def resolve (person? : Option Person) (notices : List Notice) (now : Instant) : Cell :=
  match person? with
  | some person => .ofPerson person now
  | none =>
    match notices.find? (·.covers now) with
    | some notice => .ofPerson notice.project now
    | none => .unknown

end Whereabouts.Page
