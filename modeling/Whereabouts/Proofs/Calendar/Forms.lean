import Mathlib.Data.List.TakeWhile
import Whereabouts.Proofs.Calendar.ReadBack
/-!
# The forms of dates and clock times

## Main results

`Reader.date_iff`, `Reader.dateAndClock_iff` and `Reader.clock_iff`: the lenient readers accept the
texts of three forms and no others. `DateForm.written` and `ClockForm.clock`: dates and clock times
as they are written are of these forms.

## Strategy

A form says what a text consists of, and a reader takes the text apart from the left. The readers
take as many digits as a place allows, so a form has to say where the digits of a number end only
if another number follows at once, which is so between a day and the hour after it. Everywhere else
a mark or the end of the text stops them.
-/
namespace Whereabouts.Calendar

open Whereabouts.Text

/-! ### Forms -/

/-- One to `most` digits. -/
structure Numeral (most : Nat) (run : List Char) : Prop where
  present : run ≠ []
  fits : run.length ≤ most
  digits : ∀ c ∈ run, isDigit c = true

/-- A number of one or two digits. -/
inductive NumberForm : Nat → List Char → Prop
  | intro {blanks run : List Char} (blank : ∀ c ∈ blanks, isBlank c = true)
      (numeral : Numeral 2 run) : NumberForm (value run) (blanks ++ run)

/-- A year of one to four digits, or one of any number of digits with a sign. -/
inductive YearForm : Int → List Char → Prop
  | plain {blanks run : List Char} (blank : ∀ c ∈ blanks, isBlank c = true)
      (numeral : Numeral 4 run) : YearForm (value run) (blanks ++ run)
  | positive {blanks run : List Char} (blank : ∀ c ∈ blanks, isBlank c = true)
      (numeral : Numeral run.length run) : YearForm (value run) (blanks ++ '+' :: run)
  | negative {blanks run : List Char} (blank : ∀ c ∈ blanks, isBlank c = true)
      (numeral : Numeral run.length run) : YearForm (-(value run : Int)) (blanks ++ '-' :: run)

/-- A date with its marks. The digits of the day come last; `front` is all that stands before. -/
inductive DateForm (separator : Char) (date : Date) : (front day : List Char) → Prop
  | intro {year month blanks day : List Char} (inCalendar : date.InCalendar)
      (yearForm : YearForm date.year year) (monthForm : NumberForm date.month month)
      (blank : ∀ c ∈ blanks, isBlank c = true) (numeral : Numeral 2 day)
      (dayValue : value day = date.day) :
      DateForm separator date (year ++ separator :: (month ++ separator :: blanks)) day

/-- Whether the time is given by hour and minute alone. -/
def TimeOfDay.IsWholeMinute (time : TimeOfDay) : Prop := time.second = 0 ∧ time.nanosecond = 0

/-- Hour and minute. -/
inductive ClockForm (time : TimeOfDay) : List Char → Prop
  | intro {hour minute : List Char} (hourForm : NumberForm time.hour hour)
      (minuteForm : NumberForm time.minute minute)
      (whole : time.IsWholeMinute) : ClockForm time (hour ++ ':' :: minute)

private theorem Numeral.mono {most more : Nat} {run : List Char} (numeral : Numeral most run)
    (le : most ≤ more) : Numeral more run :=
  ⟨numeral.present, numeral.fits.trans le, numeral.digits⟩

theorem TimeOfDay.of?_eq_some {hour minute second nanosecond : Nat} {time : TimeOfDay} :
    TimeOfDay.of? hour minute second nanosecond = some time ↔
      time.hour = hour ∧ time.minute = minute ∧ time.second = second ∧
        time.nanosecond = nanosecond := by
  constructor
  · intro found
    rw [TimeOfDay.of?] at found
    split at found
    · cases found
      exact ⟨rfl, rfl, rfl, rfl⟩
    · cases found
  · rintro ⟨rfl, rfl, rfl, rfl⟩
    exact TimeOfDay.of?_self time

namespace Reader

/-! ### Parts -/

theorem whole_eq_some {α : Type} {reader : Reader α} {text : List Char} {value : α} :
    reader.whole text = some value ↔ reader text = some (value, []) := by
  rw [whole]
  split
  next read => simp [read]
  next unread => simpa using unread value

private theorem mark_eq_some {c : Char} {text rest : List Char} {passed : Unit} :
    mark c text = some (passed, rest) ↔ text = c :: rest := by
  cases text with
  | nil => simp [mark]
  | cons first text => by_cases same : first = c <;> simp [mark, same]

private theorem digitRun_iff {most : Nat} {text run rest : List Char} :
    digitRun most text = some (run, rest) ↔
      text = run ++ rest ∧ Numeral most run ∧
        (run.length = most ∨ ∀ c ∈ rest.head?, isDigit c = false) := by
  constructor
  · intro read
    simp only [digitRun, List.isEmpty_iff] at read
    split at read
    · cases read
    next present =>
      cases read
      generalize taken : (text.take most).takeWhile isDigit = run at present ⊢
      have digits : ∀ c ∈ run, isDigit c = true := fun c member =>
        List.mem_takeWhile_imp (taken ▸ member)
      have front : run <+: text.take most := taken ▸ List.takeWhile_prefix isDigit
      have fits : run.length ≤ most := front.length_le.trans (List.length_take_le most text)
      obtain ⟨rest, rfl⟩ : run <+: text := front.trans (List.take_prefix most text)
      rw [List.drop_left]
      refine ⟨rfl, ⟨present, fits, digits⟩, ?_⟩
      -- With room left, a digit after the run would belong to it.
      by_contra stopsNot
      obtain ⟨notFull, c, follows, digit⟩ :
          run.length ≠ most ∧ ∃ c ∈ rest.head?, isDigit c = true := by
        simpa using stopsNot
      obtain ⟨rest, rfl⟩ : ∃ tail, rest = c :: tail := List.head?_eq_some_iff.mp follows
      obtain ⟨room, roomEq⟩ : ∃ room, most = run.length + (room + 1) :=
        ⟨most - run.length - 1, by omega⟩
      rw [roomEq, List.take_length_add_append, List.takeWhile_append_of_pos digits,
        List.take_succ_cons, List.takeWhile_cons_of_pos digit] at taken
      simpa using congrArg List.length taken
  · rintro ⟨rfl, numeral, stops⟩
    exact digitRun_append numeral.present numeral.digits numeral.fits stops

/-- A number ends where its place is full, or where no digit follows. -/
private theorem number_iff {most n : Nat} {text rest : List Char} :
    number most text = some (n, rest) ↔
      ∃ blanks run, text = blanks ++ (run ++ rest) ∧ (∀ c ∈ blanks, isBlank c = true) ∧
        Numeral most run ∧ value run = n ∧
        (run.length = most ∨ ∀ c ∈ rest.head?, isDigit c = false) := by
  simp only [number, Option.bind_eq_bind, Option.bind_eq_some_iff, Prod.exists, Option.some.injEq,
    Prod.mk.injEq, digitRun_iff]
  constructor
  · rintro ⟨run, rest, ⟨shape, numeral, stops⟩, rfl, rfl⟩
    refine ⟨text.takeWhile isBlank, run, ?_, fun c => List.mem_takeWhile_imp, numeral, rfl, stops⟩
    rw [← shape, List.takeWhile_append_dropWhile]
  · rintro ⟨blanks, run, rfl, blank, numeral, rfl, stops⟩
    refine ⟨run, rest, ⟨?_, numeral, stops⟩, rfl, rfl⟩
    rw [List.dropWhile_append_of_pos blank, dropWhile_isBlank_append numeral.present numeral.digits]

private theorem number_eq_some {n : Nat} {text rest : List Char}
    (stops : ∀ c ∈ rest.head?, isDigit c = false) :
    number 2 text = some (n, rest) ↔ ∃ front, text = front ++ rest ∧ NumberForm n front := by
  rw [number_iff]
  constructor
  · rintro ⟨blanks, run, rfl, blank, numeral, rfl, _⟩
    exact ⟨blanks ++ run, by rw [List.append_assoc], .intro blank numeral⟩
  · rintro ⟨_, rfl, ⟨blank, numeral⟩⟩
    exact ⟨_, _, List.append_assoc .., blank, numeral, rfl, .inr stops⟩

/-- With a sign every digit that follows belongs to the year. -/
private theorem digitRun_length_iff {text run rest : List Char}
    (stops : ∀ c ∈ rest.head?, isDigit c = false) :
    digitRun text.length text = some (run, rest) ↔ text = run ++ rest ∧ Numeral run.length run := by
  rw [digitRun_iff]
  constructor
  · rintro ⟨shape, numeral, _⟩
    exact ⟨shape, numeral.present, Nat.le_refl _, numeral.digits⟩
  · rintro ⟨rfl, numeral⟩
    exact ⟨rfl, numeral.mono (by simp), .inr stops⟩

private theorem year_eq_some {year : Int} {text rest : List Char}
    (stops : ∀ c ∈ rest.head?, isDigit c = false) :
    Reader.year text = some (year, rest) ↔
      ∃ front, text = front ++ rest ∧ YearForm year front := by
  have past (blanks shown : List Char) (blank : ∀ c ∈ blanks, isBlank c = true) :
      Reader.year (blanks ++ shown) = Reader.year shown := by
    rw [Reader.year, Reader.year, List.dropWhile_append_of_pos blank]
  constructor
  · intro read
    have blank : ∀ c ∈ text.takeWhile isBlank, isBlank c = true := fun c => List.mem_takeWhile_imp
    have whole : text.takeWhile isBlank ++ text.dropWhile isBlank = text :=
      List.takeWhile_append_dropWhile
    rw [Reader.year] at read
    split at read
    next shown signed =>
      obtain ⟨⟨run, rest⟩, found, same⟩ := Option.bind_eq_some_iff.mp read
      cases same
      obtain ⟨rfl, numeral⟩ := (digitRun_length_iff stops).mp found
      exact ⟨_, whole.symm.trans (by rw [signed, List.append_assoc]; rfl), .negative blank numeral⟩
    next shown signed =>
      obtain ⟨⟨run, rest⟩, found, same⟩ := Option.bind_eq_some_iff.mp read
      cases same
      obtain ⟨rfl, numeral⟩ := (digitRun_length_iff stops).mp found
      exact ⟨_, whole.symm.trans (by rw [signed, List.append_assoc]; rfl), .positive blank numeral⟩
    · obtain ⟨⟨run, rest⟩, found, same⟩ := Option.bind_eq_some_iff.mp read
      cases same
      obtain ⟨shape, numeral, _⟩ := digitRun_iff.mp found
      exact ⟨_, by rw [List.append_assoc, ← shape, whole], .plain blank numeral⟩
  · rintro ⟨_, rfl, form⟩
    cases form with
    | @plain blanks run blank numeral =>
      rw [List.append_assoc, past _ _ blank]
      obtain ⟨c, tail, rfl⟩ := List.exists_cons_of_ne_nil numeral.present
      have read := digitRun_iff.mpr ⟨rfl, numeral, .inr stops⟩
      rw [List.cons_append] at read ⊢
      rw [year_of_isDigit (numeral.digits c List.mem_cons_self), read]
      rfl
    | @positive blanks run blank numeral =>
      have read := (digitRun_length_iff stops).mpr ⟨rfl, numeral⟩
      rw [List.append_assoc, past _ _ blank]
      rw [List.cons_append, Reader.year, List.dropWhile_cons_of_neg (by decide)]
      simp only [read, Option.bind_eq_bind, Option.bind_some]
    | @negative blanks run blank numeral =>
      have read := (digitRun_length_iff stops).mpr ⟨rfl, numeral⟩
      rw [List.append_assoc, past _ _ blank]
      rw [List.cons_append, Reader.year, List.dropWhile_cons_of_neg (by decide)]
      simp only [read, Option.bind_eq_bind, Option.bind_some]

/-! ### Dates and clock times -/

theorem date_iff {separator : Char} (mark : isDigit separator = false) {date : Date}
    {text rest : List Char} :
    Reader.date separator text = some (date, rest) ↔
      ∃ front day, text = front ++ (day ++ rest) ∧ DateForm separator date front day ∧
        (day.length = 2 ∨ ∀ c ∈ rest.head?, isDigit c = false) := by
  have stops (rest : List Char) : ∀ c ∈ (separator :: rest).head?, isDigit c = false := by
    simpa using mark
  simp only [Reader.date, Option.bind_eq_bind, Option.bind_eq_some_iff, Prod.exists,
    Option.some.injEq, Prod.mk.injEq, mark_eq_some]
  constructor
  · rintro ⟨year, _, readYear, _, afterYear, rfl, month, _, readMonth, _, afterMonth, rfl, day, _,
      readDay, _, ofDate, rfl, rfl⟩
    obtain ⟨inCalendar, rfl, rfl, rfl⟩ := Date.of?_eq_some.mp ofDate
    obtain ⟨yearText, rfl, yearForm⟩ := (year_eq_some (stops _)).mp readYear
    obtain ⟨monthText, rfl, monthForm⟩ := (number_eq_some (stops _)).mp readMonth
    obtain ⟨blanks, run, rfl, blank, numeral, dayValue, ends⟩ := number_iff.mp readDay
    exact ⟨_, run, by simp, .intro inCalendar yearForm monthForm blank numeral dayValue, ends⟩
  · rintro ⟨_, day, rfl, ⟨inCalendar, yearForm, monthForm, blank, numeral, dayValue⟩, ends⟩
    refine ⟨date.year, _, (year_eq_some (stops _)).mpr ⟨_, ?_, yearForm⟩, (), _, rfl,
      date.month, _, (number_eq_some (stops _)).mpr ⟨_, rfl, monthForm⟩, (), _, rfl,
      date.day, rest, number_iff.mpr ⟨_, day, rfl, blank, numeral, dayValue, ends⟩, date,
      Date.of?_eq_some.mpr ⟨inCalendar, rfl, rfl, rfl⟩, rfl, rfl⟩
    simp

theorem clock_iff {time : TimeOfDay} {text : List Char} :
    clock text = some (time, []) ↔ ClockForm time text := by
  have stops (rest : List Char) : ∀ c ∈ (':' :: rest).head?, isDigit c = false := by simp [isDigit]
  simp only [clock, Option.bind_eq_bind, Option.bind_eq_some_iff, Prod.exists,
    Option.some.injEq, Prod.mk.injEq, mark_eq_some]
  constructor
  · rintro ⟨hour, _, readHour, _, afterHour, rfl, minute, _, readMinute, _, ofTime, rfl, rfl⟩
    obtain ⟨rfl, rfl, whole⟩ := TimeOfDay.of?_eq_some.mp ofTime
    obtain ⟨hourText, rfl, hourForm⟩ := (number_eq_some (stops _)).mp readHour
    obtain ⟨minuteText, rfl, minuteForm⟩ := (number_eq_some (by simp)).mp readMinute
    rw [List.append_nil]
    exact .intro hourForm minuteForm whole
  · rintro ⟨hourForm, minuteForm, whole⟩
    exact ⟨time.hour, _, (number_eq_some (stops _)).mpr ⟨_, rfl, hourForm⟩, (), _, rfl,
      time.minute, [], (number_eq_some (by simp)).mpr ⟨_, (List.append_nil _).symm, minuteForm⟩,
      time, TimeOfDay.of?_eq_some.mpr ⟨rfl, rfl, whole⟩, rfl, rfl⟩

theorem dateAndClock_iff {separator : Char} (mark : isDigit separator = false) {moment : Instant}
    {text : List Char} :
    dateAndClock separator text = some (moment, []) ↔
      ∃ front day clock, text = front ++ (day ++ clock) ∧
        DateForm separator moment.date front day ∧ ClockForm moment.time clock ∧
        (day.length = 2 ∨ ∀ c ∈ clock.head?, isDigit c = false) := by
  simp only [dateAndClock, Option.bind_eq_bind, Option.bind_eq_some_iff, Prod.exists,
    Option.some.injEq, Prod.mk.injEq, date_iff mark]
  constructor
  · rintro ⟨date, rest, ⟨front, day, shape, form, ends⟩, time, _, readClock, rfl, rfl⟩
    exact ⟨front, day, rest, shape, form, clock_iff.mp readClock, ends⟩
  · rintro ⟨front, day, clock, shape, form, clockForm, ends⟩
    exact ⟨moment.date, clock, ⟨front, day, shape, form, ends⟩, moment.time, [],
      clock_iff.mpr clockForm, rfl, rfl⟩

/-- The mark after the first number tells the forms apart. -/
theorem exists_year_of_date {separator : Char} {date : Date} {text rest : List Char}
    (read : Reader.date separator text = some (date, rest)) :
    ∃ year after, Reader.year text = some (year, separator :: after) := by
  simp only [Reader.date, Option.bind_eq_bind, Option.bind_eq_some_iff, Prod.exists,
    mark_eq_some] at read
  obtain ⟨year, _, readYear, _, after, rfl, _⟩ := read
  exact ⟨year, after, readYear⟩

theorem exists_year_of_clock {time : TimeOfDay} {text rest : List Char}
    (read : clock text = some (time, rest)) :
    ∃ year after, Reader.year text = some (year, ':' :: after) := by
  have stops (rest : List Char) : ∀ c ∈ (':' :: rest).head?, isDigit c = false := by simp [isDigit]
  simp only [clock, Option.bind_eq_bind, Option.bind_eq_some_iff, Prod.exists,
    mark_eq_some] at read
  obtain ⟨hour, _, readHour, _, after, rfl, _⟩ := read
  obtain ⟨front, rfl, ⟨blank, numeral⟩⟩ := (number_eq_some (stops _)).mp readHour
  have form := YearForm.plain blank (numeral.mono (by decide))
  exact ⟨_, after, (year_eq_some (stops _)).mpr ⟨_, rfl, form⟩⟩

/-- A date that ends the text has no clock time after it. -/
theorem dateAndClock_eq_none {separator : Char} {text : List Char}
    (ends : ∀ date rest, Reader.date separator text = some (date, rest) → rest = []) :
    dateAndClock separator text = none := by
  rw [Option.eq_none_iff_forall_ne_some]
  intro found read
  simp only [dateAndClock, Option.bind_eq_bind, Option.bind_eq_some_iff, Prod.exists] at read
  obtain ⟨date, rest, readDate, _, _, readClock, _⟩ := read
  rw [ends date rest readDate] at readClock
  cases readClock

theorem unread_of_year {separator mark : Char} {text after : List Char} {year : Int}
    (read : Reader.year text = some (year, mark :: after)) (different : separator ≠ mark) :
    Reader.date separator text = none ∧ dateAndClock separator text = none := by
  have unread : Reader.date separator text = none := by
    rw [Option.eq_none_iff_forall_ne_some]
    rintro ⟨date, rest⟩ readDate
    obtain ⟨_, _, read'⟩ := exists_year_of_date readDate
    rw [read] at read'
    cases read'
    exact different rfl
  exact ⟨unread, dateAndClock_eq_none fun _ _ found => by rw [unread] at found; cases found⟩

end Reader

/-! ### Written dates and clock times -/

theorem numeral_fixed {width n : Nat} (present : 0 < width) : Numeral width (fixed width n) where
  present := by
    rw [ne_eq, ← List.length_eq_zero_iff, length_fixed]
    omega
  fits := by rw [length_fixed]
  digits := all_fixed width n

theorem yearText_ne_nil (year : Int) : yearText year ≠ [] := by
  rw [yearText]
  split
  · exact (numeral_fixed (by decide)).present
  · exact List.cons_ne_nil _ _

private theorem NumberForm.fixed {n : Nat} (small : n < 100) : NumberForm n (fixed 2 n) := by
  have form := @NumberForm.intro [] (Text.fixed 2 n) nofun (numeral_fixed (by decide))
  rwa [List.nil_append, value_fixed_of_lt (show n < 10 ^ 2 from small)] at form

private theorem YearForm.yearText (year : Int) : YearForm year (yearText year) := by
  have stops : ∀ c ∈ ([] : List Char).head?, isDigit c = false := by simp
  obtain ⟨_, shape, form⟩ := (Reader.year_eq_some stops).mp (Reader.year_yearText year stops)
  rw [List.append_cancel_right shape]
  exact form

theorem DateForm.written {date : Date} (inCalendar : date.InCalendar) (separator : Char) :
    DateForm separator date (yearText date.year ++ separator :: (fixed 2 date.month ++ [separator]))
      (fixed 2 date.day) := by
  have real := date.valid
  have days := daysIn_bounds date.year date.month
  have dayValue : value (fixed 2 date.day) = date.day :=
    value_fixed_of_lt (show date.day < 10 ^ 2 by omega)
  exact .intro inCalendar (.yearText date.year) (.fixed (by omega)) nofun
    (numeral_fixed (by decide)) dayValue

theorem Date.ofSlashed?_slashed {date : Date} (inCalendar : date.InCalendar) :
    Date.ofSlashed? date.slashed = some date := by
  rw [Date.ofSlashed?, Reader.whole_eq_some]
  refine (Reader.date_iff (by decide)).mpr ⟨_, _, ?_, .written inCalendar '/', .inl (length_fixed 2 _)⟩
  simp [Date.slashed, Date.written]

theorem ClockForm.clock {time : TimeOfDay} (whole : time.IsWholeMinute) :
    ClockForm time time.clock := by
  have inDay := time.inDay
  rw [TimeOfDay.clock, List.append_assoc]
  exact .intro (.fixed (by omega)) (.fixed (by omega)) whole

private theorem NumberForm.cons {n : Nat} {text : List Char} (form : NumberForm n text) {c : Char}
    (blank : isBlank c = true) : NumberForm n (c :: text) := by
  obtain ⟨blanks, numeral⟩ := form
  exact .intro (List.forall_mem_cons.mpr ⟨blank, blanks⟩) numeral

/-- A clock time may have a blank before it. -/
theorem ClockForm.cons {time : TimeOfDay} {text : List Char} (form : ClockForm time text) {c : Char}
    (blank : isBlank c = true) : ClockForm time (c :: text) := by
  obtain ⟨hourForm, minuteForm, whole⟩ := form
  exact .intro (hourForm.cons blank) minuteForm whole

end Whereabouts.Calendar
