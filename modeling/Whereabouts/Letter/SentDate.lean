import Whereabouts.Calendar.Instant
import Whereabouts.Text.Decimal
/-!
# The date of a letter

Day, month, year, hour, minute, second and zone, in this order and parted by blanks and colons;
weekdays and commas are passed over, and a semicolon begins the date anew. A comment is passed over
too, but neither it nor a blank after it ends a part: what follows belongs to the part before. A
month is a name or a number, and a short year belongs to the years from 1950 to 2049. A zone is a
sign and hours and minutes, or a name. A name has three characters, and the two after the first are
part of it whatever they are, even line breaks; a name that is not known counts for nothing. A date
that stops before its zone, or whose month there is not, is no date. Days, hours, minutes and
seconds may run over: they are counted on from the first of the month. All dates are taken to the
common zone.
-/
namespace Whereabouts.Letter

open Whereabouts.Calendar Whereabouts.Text

/-! ### The parts of a date -/

/-- A number that is read digit by digit, from the left, into a fixed number of places. -/
structure DatePart where
  /-- The number with zeros in the free places. -/
  number : Nat
  free : Nat

namespace DatePart

/-- A digit goes into the first free place, if there is one. -/
def push (part : DatePart) (c : Char) : DatePart :=
  match part.free with
  | 0 => part
  | free + 1 => ⟨part.number + digitValue c * Nat.pow 10 free, free⟩

/-- At a blank the digits move to the right end. -/
def settle (part : DatePart) : DatePart :=
  { part with number := part.number / Nat.pow 10 part.free }

example : (((⟨0, 4⟩ : DatePart).push '9').push '5').settle.number = 95 := by decide

end DatePart

/-! ### Reading -/

structure DateState where
  /-- Which part is being read. -/
  position : Nat
  parts : List DatePart
  /-- The letters of the month, first letter first. -/
  month : List Char
  /-- The name of the zone, first character first. -/
  zone : List Char
  /-- How many characters the name of the zone lacks. -/
  lacking : Nat
  isEast : Bool
  /-- A digit of the date was read. -/
  isUnderWay : Bool
  /-- Something of the part was read, and no comment after it. -/
  isBegun : Bool
  /-- How many comments are open. -/
  comments : Nat
  /-- The character before was a backslash in a comment. -/
  isEscaped : Bool

namespace DateState

def initial : DateState where
  position := 0
  parts := [⟨0, 2⟩, ⟨0, 2⟩, ⟨0, 4⟩, ⟨0, 2⟩, ⟨0, 2⟩, ⟨0, 2⟩, ⟨0, 4⟩]
  month := []
  zone := []
  lacking := 0
  isEast := true
  isUnderWay := false
  isBegun := false
  comments := 0
  isEscaped := false

def part (state : DateState) (position : Nat) : DatePart := state.parts.getD position ⟨0, 0⟩

def setPart (state : DateState) (part : DatePart) : DateState :=
  { state with parts := state.parts.set state.position part }

/-- Digits beyond the size of a part do not count. -/
def readDigit (state : DateState) (c : Char) : DateState :=
  let part := state.part state.position
  { state.setPart (part.push c) with
    isUnderWay := state.isUnderWay || part.free ≠ 0, isBegun := true }

def endPart (state : DateState) : DateState :=
  if state.isBegun && state.isUnderWay then
    { state.setPart (state.part state.position).settle with
      position := state.position + 1, isBegun := false }
  else state

/-- A letter at the zone begins its name. After a name no digits of the zone count. -/
def readLetter (state : DateState) (c : Char) : DateState :=
  if state.position = 1 then { state with month := state.month ++ [c], isBegun := true }
  else if state.position = 6 then
    { state.setPart ⟨0, 0⟩ with zone := [c], lacking := 2, position := 7, isBegun := false }
  else { state with isBegun := true }

def readOutside (state : DateState) (c : Char) : DateState :=
  if isDigit c then state.readDigit c
  else if c.isAlpha then state.readLetter c
  else if c = ':' then if state.position = 3 ∨ state.position = 4 then state.endPart else state
  else if c = '+' then { state with position := 6 }
  else if c = '-' then { state with position := 6, isEast := false }
  else if c = ' ' || c = '\t' || c = '\n' then state.endPart
  else if c = ';' then initial
  else if c = '(' then { state with comments := 1, isBegun := false }
  else state

/-- In a comment a backslash keeps a closing parenthesis from ending it. -/
def readInside (state : DateState) (c : Char) : DateState :=
  let comments :=
    if c = '(' then state.comments + 1
    else if c = ')' && !state.isEscaped then state.comments - 1
    else state.comments
  { state with comments, isEscaped := c = '\\' }

def read (state : DateState) (c : Char) : DateState :=
  match state.lacking with
  | lacking + 1 => { state with zone := state.zone ++ [c], lacking }
  | 0 => if state.comments = 0 then state.readOutside c else state.readInside c

def number (state : DateState) (position : Nat) : Nat := (state.part position).number

end DateState

/-! ### Names -/

/-- The weights of the letters that are second or third in the name of a month. -/
def letterWeights : List (Char × Nat) :=
  [('a', 0), ('b', 14), ('c', 4), ('e', 10), ('g', 14), ('l', 4), ('n', 10), ('o', 15), ('p', 15),
    ('r', 5), ('t', 0), ('u', 5), ('v', 15), ('y', 0)]

/-- For the months in turn, what the second and the third letter of the name weigh together. No two
months have the same weight. -/
def monthWeights : List Nat := [10, 24, 5, 20, 0, 15, 9, 19, 25, 4, 30, 14]

/-- The month whose name has three letters of which these are the second and the third; 0 if there
is none. -/
def monthNamed (second third : Char) : Nat :=
  match letterWeights.lookup second.toLower, letterWeights.lookup third.toLower with
  | some second, some third => ((monthWeights.idxOf? (second + third)).map (· + 1)).getD 0
  | _, _ => 0

/-- The month of a name or a number; 0 if there is none. A word of three letters is a name, whatever
number stands beside it, and any other word is passed over for the number. -/
def monthOf (letters : List Char) (number : Nat) : Nat :=
  match letters with
  | [_, second, third] => monthNamed second third
  | _ => number

def fullYear (year : Nat) : Nat :=
  if year ≤ 49 then year + 2000 else if year ≤ 99 then year + 1900 else year

/-- The zones that have names, by the hours that they lie behind the common one. The names are in
capitals. -/
def zoneNames : List (String × Nat) :=
  [("EDT", 4), ("EST", 5), ("CDT", 5), ("CST", 6), ("MDT", 6), ("MST", 7), ("PDT", 7), ("PST", 8)]

/-- How many seconds the zone is ahead of the common one. A name goes before digits; of these, hours
count up to 23 and minutes up to 59. -/
def zoneSeconds (name : List Char) (isEast : Bool) (number : Nat) : Int :=
  let seconds : Nat :=
    if name.isEmpty then number / 100 % 24 * 3600 + number % 100 % 60 * 60
    else ((zoneNames.lookup (String.ofList name)).getD 0) * 3600
  if name.isEmpty && isEast then seconds else -seconds

/-! ### The instant -/

/-- The instant in the header, in the common zone. The last line break belongs to no part. -/
def sentIn? (header : List Char) : Option Instant :=
  let text := if header.getLast? = some '\n' then header.dropLast else header
  let state := text.foldl DateState.read .initial
  if state.position < 6 then none
  else
    let month := monthOf state.month (state.number 1)
    (Date.of? (fullYear (state.number 2)) month 1).map fun first =>
      let hours : Int := (state.number 0 - 1 : Int) * 24 + state.number 3
      let seconds := (hours * 60 + state.number 4) * 60 + state.number 5
      .atSecond first (seconds - zoneSeconds state.zone state.isEast (state.number 6))

example : monthOf "Apr".toList 0 = 4 := by decide

end Whereabouts.Letter
