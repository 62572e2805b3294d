import Mathlib.Data.Option.Basic
import Whereabouts.Period
import Whereabouts.Proofs.Calendar.Forms
import Whereabouts.Proofs.Text.Blank
import Whereabouts.Proofs.Text.Find
/-!
# Reading periods

## Main result

`reads_as_written`: a period that is written with a separator and in one of the forms is read as it
was meant, and refused if it runs backwards; no period that is read is empty; and a text is
unrecognised just when its start is a time alone or one of its parts is of no form.

## Strategy

1. `Endpoint.Form` says which texts are endpoints, and of what kind. The forms exclude each other:
   the mark after the first number tells slashes, dashes and clock times apart, and a date ends
   where a date with a time goes on. So the order in which they are tried does not matter.
2. `Reads` says what a whole text means, from the first separator on, and `ends?` computes it.
3. Written endpoints are of their form, have no separator in them, and begin and end with something
   that is no blank, so the blanks around them go.
-/
namespace Whereabouts.Period

open Whereabouts.Text Whereabouts.Calendar

/-! ### Endpoints -/

namespace Endpoint

/-- The forms of an endpoint: a date, a date and a clock time, or a clock time alone. Dates have
slashes or dashes. -/
inductive Form : Endpoint → List Char → Prop
  | date {separator : Char} {date : Date} {front day : List Char}
      (mark : separator = '/' ∨ separator = '-') (form : DateForm separator date front day) :
      Form (.date date) (front ++ day)
  | instant {separator : Char} {moment : Instant} {front day clock : List Char}
      (mark : separator = '/' ∨ separator = '-') (form : DateForm separator moment.date front day)
      (clockForm : ClockForm moment.time clock)
      (apart : day.length = 2 ∨ ∀ c ∈ clock.head?, isDigit c = false) :
      Form (.instant moment) (front ++ (day ++ clock))
  | time {clock : TimeOfDay} {text : List Char} (form : ClockForm clock text) :
      Form (.time clock) text

/-- When a period begins whose start is this: a date begins at midnight. -/
inductive Begins : Endpoint → Instant → Prop
  | date (date : Date) : Begins (.date date) ⟨date, .midnight⟩
  | instant (moment : Instant) : Begins (.instant moment) moment

/-- When a period finishes that begins on that day and whose end is this: a date finishes with its
last minute, and a time alone belongs to the day. -/
inductive Finishes (day : Date) : Endpoint → Instant → Prop
  | date (date : Date) : Finishes day (.date date) ⟨date, .lastMinute⟩
  | instant (moment : Instant) : Finishes day (.instant moment) moment
  | time (clock : TimeOfDay) : Finishes day (.time clock) ⟨day, clock⟩

private theorem asStart?_eq_some {endpoint : Endpoint} {first : Instant} :
    endpoint.asStart? = some first ↔ endpoint.Begins first := by
  constructor
  · intro starts
    cases endpoint <;> cases starts
    · exact .date _
    · exact .instant _
  · intro begins
    cases begins <;> rfl

private theorem asEnd_eq {endpoint : Endpoint} {day : Date} {last : Instant} :
    endpoint.asEnd day = last ↔ endpoint.Finishes day last := by
  constructor
  · rintro rfl
    cases endpoint
    · exact .date _
    · exact .instant _
    · exact .time _
  · intro finishes
    cases finishes <;> rfl

end Endpoint

open Reader in
theorem endpoint?_eq_some {text : List Char} {endpoint : Endpoint} :
    endpoint? text = some endpoint ↔ endpoint.Form (trim text) := by
  have slash : isDigit '/' = false := by decide
  have dash : isDigit '-' = false := by decide
  simp only [endpoint?]
  generalize trim text = text
  constructor
  · intro found
    simp only [Option.orElse_eq_some, Option.map_eq_some_iff, whole_eq_some] at found
    rcases found with ⟨moment, read, rfl⟩ | ⟨-, ⟨moment, read, rfl⟩ | ⟨-, ⟨date, read, rfl⟩ | ⟨-,
      ⟨date, read, rfl⟩ | ⟨-, clock, read, rfl⟩⟩⟩⟩
    · obtain ⟨front, day, clock, rfl, form, clockForm, apart⟩ := (dateAndClock_iff slash).mp read
      exact .instant (.inl rfl) form clockForm apart
    · obtain ⟨front, day, clock, rfl, form, clockForm, apart⟩ := (dateAndClock_iff dash).mp read
      exact .instant (.inr rfl) form clockForm apart
    · obtain ⟨front, day, rfl, form, -⟩ := (date_iff slash).mp read
      rw [List.append_nil]
      exact .date (.inl rfl) form
    · obtain ⟨front, day, rfl, form, -⟩ := (date_iff dash).mp read
      rw [List.append_nil]
      exact .date (.inr rfl) form
    · exact .time (clock_iff.mp read)
  · intro form
    -- The forms that are tried before this one are not read, for want of their mark or of a clock.
    cases form with
    | @date separator date front day mark form =>
      have notDigit : isDigit separator = false := by rcases mark with rfl | rfl <;> assumption
      have read : Reader.date separator (front ++ day) = some (date, []) :=
        (date_iff notDigit).mpr ⟨front, day, by rw [List.append_nil], form, .inr (by simp)⟩
      obtain ⟨year, after, readYear⟩ := exists_year_of_date read
      have noClock : dateAndClock separator (front ++ day) = none :=
        dateAndClock_eq_none fun _ _ found => by rw [read] at found; cases found; rfl
      rcases mark with rfl | rfl
      · have noDash := unread_of_year readYear (show '-' ≠ '/' by decide)
        simp [whole, read, noClock, noDash.2]
      · have noSlash := unread_of_year readYear (show '/' ≠ '-' by decide)
        simp [whole, read, noClock, noSlash.1, noSlash.2]
    | @instant separator moment front day clock mark form clockForm apart =>
      have notDigit : isDigit separator = false := by rcases mark with rfl | rfl <;> assumption
      have read : dateAndClock separator (front ++ (day ++ clock)) = some (moment, []) :=
        (dateAndClock_iff notDigit).mpr ⟨front, day, clock, rfl, form, clockForm, apart⟩
      obtain ⟨year, after, readYear⟩ := exists_year_of_date
        ((date_iff notDigit).mpr ⟨front, day, rfl, form, apart⟩)
      rcases mark with rfl | rfl
      · simp [whole, read]
      · have noSlash := unread_of_year readYear (show '/' ≠ '-' by decide)
        simp [whole, read, noSlash.2]
    | @time clock _ form =>
      have read := clock_iff.mpr form
      obtain ⟨year, after, readYear⟩ := exists_year_of_clock read
      have noSlash := unread_of_year readYear (show '/' ≠ ':' by decide)
      have noDash := unread_of_year readYear (show '-' ≠ ':' by decide)
      simp [whole, read, noSlash.1, noSlash.2, noDash.1, noDash.2]

private theorem endpoint?_eq_none {text : List Char} :
    endpoint? text = none ↔ ∀ endpoint : Endpoint, ¬ endpoint.Form (trim text) := by
  simp only [Option.eq_none_iff_forall_ne_some, ne_eq, endpoint?_eq_some]

/-! ### Whole periods -/

/-- The start of a text and its end, if there is one: what stands before the first separator, and
what stands after it. -/
inductive Parts : (text start : List Char) → (last? : Option (List Char)) → Prop
  | alone {text : List Char} (passes : ∀ c ∈ text, isSeparator c = false) : Parts text text none
  | both {start last : List Char} {separator : Char} (passes : ∀ c ∈ start, isSeparator c = false)
      (stops : isSeparator separator = true) : Parts (start ++ separator :: last) start (some last)

/-- What a text says: the ends of a period, in whatever order. -/
inductive Reads (text : List Char) (first : Instant) : (last : Instant) → Prop
  | alone {start : Endpoint} {startText : List Char} (parts : Parts text startText none)
      (startForm : start.Form (trim startText)) (begins : start.Begins first) :
      Reads text first ⟨first.date, .lastMinute⟩
  | both {start finish : Endpoint} {startText finishText : List Char} {last : Instant}
      (parts : Parts text startText (some finishText)) (startForm : start.Form (trim startText))
      (begins : start.Begins first) (finishForm : finish.Form (trim finishText))
      (finishes : finish.Finishes first.date last) : Reads text first last

/-- Whether a text says nothing: its start is a time alone, or one of its parts is of no form. -/
inductive Unreadable (text : List Char) : Prop
  | time {startText : List Char} {finishText? : Option (List Char)} {clock : TimeOfDay}
      (parts : Parts text startText finishText?)
      (form : Endpoint.Form (.time clock) (trim startText))
  | start {startText : List Char} {finishText? : Option (List Char)}
      (parts : Parts text startText finishText?)
      (noForm : ∀ endpoint : Endpoint, ¬ endpoint.Form (trim startText))
  | finish {startText finishText : List Char} (parts : Parts text startText (some finishText))
      (noForm : ∀ endpoint : Endpoint, ¬ endpoint.Form (trim finishText))

private theorem exists_parts (text : List Char) : ∃ start last?, Parts text start last? := by
  cases split : splitAt? isSeparator text with
  | none => exact ⟨text, none, .alone (splitAt?_eq_none.mp split)⟩
  | some found =>
    obtain ⟨start, last⟩ := found
    obtain ⟨c, rfl, stops, passes⟩ := splitAt?_eq_some.mp split
    exact ⟨start, some last, .both passes stops⟩

private theorem ends?_of_alone {text start : List Char} (parts : Parts text start none) :
    ends? text = (endpoint? start).bind fun start =>
      start.asStart?.map fun first => (first, ⟨first.date, .lastMinute⟩) := by
  cases parts with
  | alone passes =>
    rw [ends?, splitAt?_eq_none.mpr passes]
    simp only [Option.map_eq_bind]
    rfl

private theorem ends?_of_both {text start finish : List Char}
    (parts : Parts text start (some finish)) :
    ends? text = (endpoint? start).bind fun start => start.asStart?.bind fun first =>
      (endpoint? finish).map fun finish => (first, finish.asEnd first.date) := by
  cases parts with
  | both passes stops =>
    rw [ends?, splitAt?_eq_some.mpr ⟨_, rfl, stops, passes⟩]
    simp only [Option.map_eq_bind]
    rfl

private theorem ends?_eq_some {text : List Char} {first last : Instant} :
    ends? text = some (first, last) ↔ Reads text first last := by
  constructor
  · intro found
    obtain ⟨startText, finishText?, parts⟩ := exists_parts text
    cases finishText? with
    | none =>
      simp only [ends?_of_alone parts, Option.bind_eq_some_iff, Option.map_eq_some_iff,
        Prod.mk.injEq, endpoint?_eq_some, Endpoint.asStart?_eq_some] at found
      obtain ⟨start, startForm, _, begins, rfl, rfl⟩ := found
      exact .alone parts startForm begins
    | some finishText =>
      simp only [ends?_of_both parts, Option.bind_eq_some_iff, Option.map_eq_some_iff,
        Prod.mk.injEq, endpoint?_eq_some, Endpoint.asStart?_eq_some] at found
      obtain ⟨start, startForm, _, begins, finish, finishForm, rfl, atEnd⟩ := found
      exact .both parts startForm begins finishForm (Endpoint.asEnd_eq.mp atEnd)
  · intro reads
    cases reads with
    | alone parts startForm begins =>
      simp [ends?_of_alone parts, endpoint?_eq_some.mpr startForm,
        Endpoint.asStart?_eq_some.mpr begins]
    | both parts startForm begins finishForm finishes =>
      simp [ends?_of_both parts, endpoint?_eq_some.mpr startForm, endpoint?_eq_some.mpr finishForm,
        Endpoint.asStart?_eq_some.mpr begins, Endpoint.asEnd_eq.mpr finishes]

private theorem ends?_eq_none {text : List Char} : ends? text = none ↔ Unreadable text := by
  constructor
  · intro nothing
    obtain ⟨startText, finishText?, parts⟩ := exists_parts text
    cases start : endpoint? startText with
    | none => exact .start parts (endpoint?_eq_none.mp start)
    | some endpoint =>
      cases begins : endpoint.asStart? with
      | none =>
        -- Only a time alone does not tell when the period begins.
        cases endpoint with
        | time clock => exact .time parts (endpoint?_eq_some.mp start)
        | date date => cases begins
        | instant moment => cases begins
      | some first =>
        cases finishText? with
        | none => simp [ends?_of_alone parts, start, begins] at nothing
        | some finishText =>
          refine .finish parts (endpoint?_eq_none.mp ?_)
          simpa [ends?_of_both parts, start, begins] using nothing
  · intro unreadable
    cases unreadable with
    | @time startText finishText? clock parts form =>
      have start := endpoint?_eq_some.mpr form
      cases finishText? with
      | none => simp [ends?_of_alone parts, start, Endpoint.asStart?]
      | some finishText => simp [ends?_of_both parts, start, Endpoint.asStart?]
    | @start startText finishText? parts noForm =>
      have start := endpoint?_eq_none.mpr noForm
      cases finishText? with
      | none => simp [ends?_of_alone parts, start]
      | some finishText => simp [ends?_of_both parts, start]
    | finish parts noForm => simp [ends?_of_both parts, endpoint?_eq_none.mpr noForm]

theorem parse_eq_ok {text : String} {period : Period} :
    parse text = .ok period ↔
      Reads text.toList period.first period.last ∧ period.first < period.last := by
  rw [← ends?_eq_some, parse]
  cases ends? text.toList with
  | none => simp
  | some found =>
    obtain ⟨first, last⟩ := found
    obtain ⟨first', last'⟩ := period
    by_cases forward : first < last
    · simp only [if_pos forward, Except.ok.injEq, Period.mk.injEq, Option.some.injEq, Prod.mk.injEq]
      constructor
      · rintro ⟨rfl, rfl⟩
        exact ⟨⟨rfl, rfl⟩, forward⟩
      · exact And.left
    · simp only [if_neg forward, reduceCtorEq, Option.some.injEq, Prod.mk.injEq, false_iff]
      rintro ⟨⟨rfl, rfl⟩, forward'⟩
      exact forward forward'

private theorem parse_eq_unrecognised {text : String} :
    parse text = .error (.unrecognised text) ↔ Unreadable text.toList := by
  rw [← ends?_eq_none, parse]
  split
  next nothing => simp [nothing]
  next found =>
    rw [found]
    split <;> simp

theorem parse_of_reads {text : String} {first last : Instant}
    (reads : Reads text.toList first last) :
    parse text = if first < last then .ok ⟨first, last⟩ else .error (.backwards text) := by
  rw [parse, ends?_eq_some.mpr reads]

/-! ### Written periods -/

namespace Endpoint

/-- Whether the endpoint can be written: its date is in the calendar, its time a whole minute. -/
def Writable : Endpoint → Prop
  | .date day => day.InCalendar
  | .instant moment => moment.InCalendar ∧ moment.time.IsWholeMinute
  | .time clock => clock.IsWholeMinute

def written (separator : Char) : Endpoint → List Char
  | .date day => day.written [separator]
  | .instant moment => moment.date.written [separator] ++ ' ' :: moment.time.clock
  | .time clock => clock.clock

/-- The texts that write an endpoint, with slashes or dashes and with any blanks around it. -/
inductive Writes : Endpoint → List Char → Prop
  | intro {endpoint : Endpoint} {separator : Char} {before after : List Char}
      (writable : endpoint.Writable) (mark : separator = '/' ∨ separator = '-')
      (blank : ∀ c ∈ before, isBlank c = true) (blank' : ∀ c ∈ after, isBlank c = true) :
      Writes endpoint (before ++ (endpoint.written separator ++ after))

private theorem form_written {endpoint : Endpoint} (writable : endpoint.Writable) {separator : Char}
    (mark : separator = '/' ∨ separator = '-') : endpoint.Form (endpoint.written separator) := by
  cases endpoint with
  | date day =>
    have form := Form.date mark (DateForm.written writable separator)
    simpa [written, Date.written] using form
  | instant moment =>
    have clockForm := (ClockForm.clock writable.2).cons (show isBlank ' ' = true by decide)
    have form := Form.instant mark (DateForm.written writable.1 separator) clockForm
      (.inl (length_fixed _ _))
    simpa [written, Date.written] using form
  | time clock => exact .time (ClockForm.clock writable)

/-- Figures, blanks and the marks of dates and times are no separators of periods. -/
private theorem passes_of_plain {c : Char}
    (plain : isDigit c = true ∨ isBlank c = true ∨ c ∈ ['/', '-', '+', ':']) :
    isSeparator c = false := by
  rw [Bool.eq_false_iff]
  intro separates
  simp only [isSeparator, Bool.or_eq_true, beq_iff_eq] at separates
  rcases separates with (rfl | rfl) | rfl <;> revert plain <;> decide

private theorem passes_date (date : Date) {separator : Char}
    (mark : separator = '/' ∨ separator = '-') :
    ∀ c ∈ date.written [separator], isSeparator c = false := by
  intro c member
  have marked : isSeparator separator = false :=
    passes_of_plain (.inr (.inr (by rcases mark with rfl | rfl <;> simp)))
  simp only [Date.written, List.mem_append, List.mem_singleton] at member
  rcases member with (((inYear | rfl) | inMonth) | rfl) | inDay
  · rcases all_yearText _ c inYear with digit | rfl | rfl
    · exact passes_of_plain (.inl digit)
    · exact passes_of_plain (.inr (.inr (by simp)))
    · exact passes_of_plain (.inr (.inr (by simp)))
  · exact marked
  · exact passes_of_plain (.inl (all_fixed _ _ c inMonth))
  · exact marked
  · exact passes_of_plain (.inl (all_fixed _ _ c inDay))

private theorem passes_clock (time : TimeOfDay) : ∀ c ∈ time.clock, isSeparator c = false := by
  intro c member
  simp only [TimeOfDay.clock, List.mem_append, List.mem_singleton] at member
  rcases member with (inHour | rfl) | inMinute
  · exact passes_of_plain (.inl (all_fixed _ _ c inHour))
  · exact passes_of_plain (.inr (.inr (by simp)))
  · exact passes_of_plain (.inl (all_fixed _ _ c inMinute))

private theorem passes_written (endpoint : Endpoint) {separator : Char}
    (mark : separator = '/' ∨ separator = '-') :
    ∀ c ∈ endpoint.written separator, isSeparator c = false := by
  cases endpoint with
  | date day => exact passes_date day mark
  | instant moment =>
    refine List.forall_mem_append.mpr ⟨passes_date moment.date mark, ?_⟩
    exact List.forall_mem_cons.mpr ⟨passes_of_plain (by decide), passes_clock moment.time⟩
  | time clock => exact passes_clock clock

/-- A text shows at both ends if the first of its parts and the last of them do. -/
private theorem shows_ends {front back : List Char} (middle : List Char) (present : front ≠ [])
    (shows : ∀ c ∈ front, isBlank c = false) (present' : back ≠ [])
    (shows' : ∀ c ∈ back, isBlank c = false) :
    (∀ c ∈ (front ++ (middle ++ back)).head?, isBlank c = false) ∧
      ∀ c ∈ (front ++ (middle ++ back)).getLast?, isBlank c = false := by
  constructor
  · intro c first
    rw [List.head?_append_of_ne_nil front present] at first
    exact shows c (List.mem_of_head? first)
  · intro c last
    rw [← List.append_assoc, List.getLast?_append_of_ne_nil _ present'] at last
    exact shows' c (List.mem_of_getLast? last)

private theorem shows_written (endpoint : Endpoint) (separator : Char) :
    (∀ c ∈ (endpoint.written separator).head?, isBlank c = false) ∧
      ∀ c ∈ (endpoint.written separator).getLast?, isBlank c = false := by
  have figures (n : Nat) : fixed 2 n ≠ [] ∧ ∀ c ∈ fixed 2 n, isBlank c = false :=
    ⟨(numeral_fixed (by decide)).present,
      fun c member => isBlank_of_isDigit (all_fixed 2 n c member)⟩
  have year (date : Date) : yearText date.year ≠ [] ∧
      ∀ c ∈ yearText date.year, isBlank c = false := by
    refine ⟨yearText_ne_nil _, fun c member => ?_⟩
    rcases all_yearText _ c member with digit | rfl | rfl
    · exact isBlank_of_isDigit digit
    · decide
    · decide
  cases endpoint with
  | date day =>
    simpa [written, Date.written] using
      shows_ends (separator :: (fixed 2 day.month ++ [separator])) (year day).1 (year day).2
        (figures day.day).1 (figures day.day).2
  | instant moment =>
    simpa [written, Date.written, TimeOfDay.clock] using
      shows_ends
        (separator :: (fixed 2 moment.date.month ++ separator :: (fixed 2 moment.date.day ++
          ' ' :: (fixed 2 moment.time.hour ++ [':']))))
        (year moment.date).1 (year moment.date).2 (figures moment.time.minute).1
        (figures moment.time.minute).2
  | time clock =>
    simpa [written, TimeOfDay.clock] using
      shows_ends [':'] (figures clock.hour).1 (figures clock.hour).2 (figures clock.minute).1
        (figures clock.minute).2

private theorem Writes.form {endpoint : Endpoint} {text : List Char}
    (writes : endpoint.Writes text) :
    endpoint.Form (trim text) := by
  obtain ⟨writable, mark, blank, blank'⟩ := writes
  obtain ⟨first, last⟩ := shows_written endpoint _
  rw [trim_surrounded blank blank' first last]
  exact form_written writable mark

private theorem Writes.passes {endpoint : Endpoint} {text : List Char}
    (writes : endpoint.Writes text) :
    ∀ c ∈ text, isSeparator c = false := by
  obtain ⟨_, mark, blank, blank'⟩ := writes
  simp only [List.forall_mem_append]
  exact ⟨fun c member => passes_of_plain (.inr (.inl (blank c member))),
    passes_written endpoint mark, fun c member => passes_of_plain (.inr (.inl (blank' c member)))⟩

end Endpoint

/-- The texts that write a period: a start, and perhaps an end after a separator. -/
inductive Writes : (text : List Char) → (first last : Instant) → Prop
  | alone {start : Endpoint} {startText : List Char} {first : Instant}
      (writes : start.Writes startText) (begins : start.Begins first) :
      Writes startText first ⟨first.date, .lastMinute⟩
  | both {start finish : Endpoint} {startText finishText : List Char} {separator : Char}
      {first last : Instant} (writes : start.Writes startText) (begins : start.Begins first)
      (stops : isSeparator separator = true) (writes' : finish.Writes finishText)
      (finishes : finish.Finishes first.date last) :
      Writes (startText ++ separator :: finishText) first last

private theorem Writes.reads {text : List Char} {first last : Instant}
    (writes : Writes text first last) :
    Reads text first last := by
  cases writes with
  | alone writes begins => exact .alone (.alone writes.passes) writes.form begins
  | both writes begins stops writes' finishes =>
    exact .both (.both writes.passes stops) writes.form begins writes'.form finishes

/-- A written period is read as it was meant unless it does not run forward, and then it is refused;
what is read at all is of the forms and runs forward; and a text is unrecognised just if its start
is a time alone or one of its parts is of no form. -/
theorem reads_as_written :
    (∀ text first last, Writes text.toList first last →
      parse text = if first < last then .ok ⟨first, last⟩ else .error (.backwards text)) ∧
    (∀ text period, parse text = .ok period ↔
      Reads text.toList period.first period.last ∧ period.first < period.last) ∧
    ∀ text, parse text = .error (.unrecognised text) ↔ Unreadable text.toList :=
  ⟨fun _ _ _ writes => parse_of_reads writes.reads, fun _ _ => parse_eq_ok,
    fun _ => parse_eq_unrecognised⟩

/-- An afternoon, with a blank at every place that may have one, and two times without a date. -/
theorem reads_as_written_of_afternoon :
    let day : Date := ⟨2024, 5, 10, by decide⟩
    let first : Instant := ⟨day, 13, 0, 0, 0, by decide⟩
    let last : Instant := ⟨day, 17, 30, 0, 0, by decide⟩
    Writes " 2024-05-10 13:00 ～\u300017:30 ".toList first last ∧
      parse " 2024-05-10 13:00 ～\u300017:30 " = .ok ⟨first, last⟩ ∧
      Unreadable "13:00～17:30".toList := by
  intro day first last
  have inCalendar : first.InCalendar := ⟨by decide, by decide⟩
  have blank : ∀ c ∈ [' '], isBlank c = true := List.forall_mem_singleton.mpr (by decide)
  have wide : ∀ c ∈ ['\u3000'], isBlank c = true := List.forall_mem_singleton.mpr (by decide)
  have text : " 2024-05-10 13:00 ～\u300017:30 ".toList =
      ([' '] ++ (Endpoint.written '-' (.instant first) ++ [' '])) ++
        '～' :: (['\u3000'] ++ (Endpoint.written '-' (.time last.time) ++ [' '])) := by decide
  have writes : Writes " 2024-05-10 13:00 ～\u300017:30 ".toList first last := by
    rw [text]
    exact .both (.intro ⟨inCalendar, rfl, rfl⟩ (.inr rfl) blank blank) (.instant first) (by decide)
      (.intro ⟨rfl, rfl⟩ (.inr rfl) wide blank) (.time last.time)
  refine ⟨writes, ?_, (reads_as_written.2.2 _).mp (by decide +kernel)⟩
  rw [reads_as_written.1 _ _ _ writes, if_pos (by decide)]

end Whereabouts.Period
