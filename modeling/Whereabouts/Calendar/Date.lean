/-!
# Dates

A date of the Gregorian calendar, carried on before its introduction and with a year 0. The proof
field keeps days that do not exist out, so `next` and `previous` never leave the calendar.
-/
namespace Whereabouts.Calendar

def isLeapYear (year : Int) : Bool := year % 4 == 0 && (year % 100 != 0 || year % 400 == 0)

def daysIn (year : Int) (month : Nat) : Nat :=
  match month with
  | 2 => if isLeapYear year then 29 else 28
  | 4 | 6 | 9 | 11 => 30
  | _ => 31

theorem daysIn_bounds (year : Int) (month : Nat) :
    28 ≤ daysIn year month ∧ daysIn year month ≤ 31 :=
  by
  unfold daysIn
  split
  · split <;> omega
  all_goals omega

structure Date where
  year : Int
  month : Nat
  day : Nat
  valid : 1 ≤ month ∧ month ≤ 12 ∧ 1 ≤ day ∧ day ≤ daysIn year month
deriving DecidableEq

namespace Date

/-- The first and last years in which dates are read. -/
def firstYear : Int := -262143

def lastYear : Int := 262142

def of? (year : Int) (month day : Nat) : Option Date :=
  if firstYear ≤ year ∧ year ≤ lastYear then
    if real : 1 ≤ month ∧ month ≤ 12 ∧ 1 ≤ day ∧ day ≤ daysIn year month then
      some ⟨year, month, day, real⟩
    else none
  else none

/-- 1 January 1970. -/
def epoch : Date := ⟨1970, 1, 1, by decide⟩

instance : Inhabited Date := ⟨epoch⟩

/-! ### Neighbours -/

def next (date : Date) : Date :=
  if within : date.day < daysIn date.year date.month then
    ⟨date.year, date.month, date.day + 1, by have := date.valid; omega⟩
  else if inYear : date.month < 12 then
    ⟨date.year, date.month + 1, 1, by
      have := date.valid
      have := daysIn_bounds date.year (date.month + 1)
      omega⟩
  else ⟨date.year + 1, 1, 1, by simp [daysIn]⟩

def previous (date : Date) : Date :=
  if within : 1 < date.day then
    ⟨date.year, date.month, date.day - 1, by have := date.valid; omega⟩
  else if inYear : 1 < date.month then
    ⟨date.year, date.month - 1, daysIn date.year (date.month - 1), by
      have := date.valid
      have := daysIn_bounds date.year (date.month - 1)
      omega⟩
  else ⟨date.year - 1, 12, 31, by simp [daysIn]⟩

/-- The date that many days later, or earlier. -/
def shifted (date : Date) (days : Int) : Date :=
  match days with
  | .ofNat days => days.repeat next date
  | .negSucc days => (days + 1).repeat previous date

/-! ### Order -/

/-- A number that grows with the date. -/
def rank (date : Date) : Int := (date.year * 16 + date.month) * 32 + date.day

instance : LE Date := ⟨fun one two => one.rank ≤ two.rank⟩

instance : LT Date := ⟨fun one two => one.rank < two.rank⟩

instance (one two : Date) : Decidable (one ≤ two) :=
  inferInstanceAs (Decidable (one.rank ≤ two.rank))

instance (one two : Date) : Decidable (one < two) :=
  inferInstanceAs (Decidable (one.rank < two.rank))

theorem le_def {one two : Date} : one ≤ two ↔ one.rank ≤ two.rank := Iff.rfl

theorem lt_def {one two : Date} : one < two ↔ one.rank < two.rank := Iff.rfl

theorem eq_of_rank {one two : Date} (same : one.rank = two.rank) : one = two := by
  obtain ⟨year, month, day, real⟩ := one
  obtain ⟨year', month', day', real'⟩ := two
  have := daysIn_bounds year month
  have := daysIn_bounds year' month'
  simp only [rank] at same
  obtain ⟨rfl, rfl, rfl⟩ : year = year' ∧ month = month' ∧ day = day' := by omega
  rfl

theorem next_previous (date : Date) : date.previous.next = date := by
  obtain ⟨year, month, day, real⟩ := date
  have := daysIn_bounds year month
  by_cases within : 1 < day
  · have room : day - 1 < daysIn year month := by omega
    have back : day - 1 + 1 = day := by omega
    simp [previous, next, within, room, back]
  · obtain rfl : day = 1 := by omega
    by_cases inYear : 1 < month
    · have room : month - 1 < 12 := by omega
      have back : month - 1 + 1 = month := by omega
      simp [previous, next, inYear, room, back]
    · obtain rfl : month = 1 := by omega
      simp [previous, next, daysIn]

end Date

end Whereabouts.Calendar
