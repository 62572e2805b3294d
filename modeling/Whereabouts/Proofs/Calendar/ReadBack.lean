import Whereabouts.Calendar.Reading
import Whereabouts.Calendar.Written
import Whereabouts.Proofs.Text.Decimal
/-!
# Reading stored instants back

## Main result

`Instant.ofText?_written`: an instant within the years that are read is read back from its text.

## Strategy

A reader takes a number from the front of a text whatever comes after it, as long as its place is
full or no digit follows. The text of an instant is read number by number and mark by mark.
-/
namespace Whereabouts.Calendar

open Whereabouts.Text

/-! ### Dates that can be read -/

/-- Whether the year is one in which dates are read. -/
def Date.InCalendar (date : Date) : Prop := firstYear ≤ date.year ∧ date.year ≤ lastYear

def Instant.InCalendar (moment : Instant) : Prop := moment.date.InCalendar

theorem Date.of?_eq_some {year : Int} {month day : Nat} {date : Date} :
    Date.of? year month day = some date ↔
      date.InCalendar ∧ date.year = year ∧ date.month = month ∧ date.day = day := by
  rw [Date.of?, Date.InCalendar]
  split
  next inside =>
    split
    next real =>
      rw [Option.some.injEq]
      constructor
      · rintro rfl
        exact ⟨inside, rfl, rfl, rfl⟩
      · rintro ⟨_, rfl, rfl, rfl⟩
        rfl
    next unreal =>
      constructor
      · intro nothing
        cases nothing
      · rintro ⟨_, rfl, rfl, rfl⟩
        exact absurd date.valid unreal
  next outside =>
    constructor
    · intro nothing
      cases nothing
    · rintro ⟨inside, rfl, _, _⟩
      exact absurd inside outside

theorem TimeOfDay.of?_self (time : TimeOfDay) :
    TimeOfDay.of? time.hour time.minute time.second time.nanosecond = some time := by
  rw [TimeOfDay.of?, dif_pos time.inDay]

namespace Reader

/-! ### Numbers -/

theorem digitRun_append {most : Nat} {run rest : List Char} (present : run ≠ [])
    (digits : ∀ c ∈ run, isDigit c = true) (fits : run.length ≤ most)
    (stops : run.length = most ∨ ∀ c ∈ rest.head?, isDigit c = false) :
    digitRun most (run ++ rest) = some (run, rest) := by
  have taken : ((run ++ rest).take most).takeWhile isDigit = run := by
    rw [List.take_append, List.take_of_length_le fits, List.takeWhile_append_of_pos digits]
    -- The run fills its place, or the text goes on with something else.
    rcases stops with full | ends
    · simp [full]
    · cases rest with
      | nil => simp
      | cons c rest =>
        cases most - run.length with
        | zero => simp
        | succ free => simp [ends c rfl]
  simp [digitRun, taken, present]

/-- Where a number begins, there are no blanks to pass over. -/
theorem dropWhile_isBlank_append {run : List Char} (present : run ≠ [])
    (digits : ∀ c ∈ run, isDigit c = true) (rest : List Char) :
    (run ++ rest).dropWhile isBlank = run ++ rest := by
  obtain ⟨c, run, rfl⟩ := List.exists_cons_of_ne_nil present
  simp [isBlank_of_isDigit (digits c List.mem_cons_self)]

private theorem number_fixed {n : Nat} (small : n < 100) (rest : List Char) :
    number 2 (fixed 2 n ++ rest) = some (n, rest) := by
  have present : fixed 2 n ≠ [] := by simp [fixed]
  have digits := all_fixed 2 n
  rw [number, dropWhile_isBlank_append present digits,
    digitRun_append present digits (by simp) (.inl (by simp))]
  simp [value_fixed_of_lt (show n < 10 ^ 2 from small)]

/-- Only a sign in front lifts the limit of four digits. -/
theorem year_of_isDigit {c : Char} (digit : isDigit c = true) (text : List Char) :
    Reader.year (c :: text) =
      (digitRun 4 (c :: text)).map fun read => ((value read.1 : Int), read.2) := by
  have passed : (c :: text).dropWhile isBlank = c :: text :=
    List.dropWhile_cons_of_neg (by simp [isBlank_of_isDigit digit])
  rw [Reader.year, passed]
  split
  next sign => cases sign; exact absurd digit (by decide)
  next sign => cases sign; exact absurd digit (by decide)
  · rw [Option.map_eq_bind]
    rfl

theorem year_yearText (year : Int) {rest : List Char}
    (stops : ∀ c ∈ rest.head?, isDigit c = false) :
    Reader.year (yearText year ++ rest) = some (year, rest) := by
  rw [yearText]
  split
  -- Years of four digits have no sign; for all others the sign lifts the limit.
  next plain =>
    obtain ⟨c, run, shape⟩ := List.exists_cons_of_ne_nil
      (show fixed 4 year.toNat ≠ [] by simp [fixed])
    have digits := all_fixed 4 year.toNat
    have read : digitRun 4 (fixed 4 year.toNat ++ rest) = some (fixed 4 year.toNat, rest) :=
      digitRun_append (by simp [shape]) digits (by simp) (.inl (by simp))
    have written := value_fixed_of_lt (show year.toNat < 10 ^ 4 by omega)
    rw [shape] at digits read written ⊢
    rw [List.cons_append, year_of_isDigit (digits c List.mem_cons_self), ← List.cons_append, read]
    simp only [Option.map_some, written, Int.toNat_of_nonneg plain.1]
  next signs =>
    have read : digitRun (padded 4 year.natAbs ++ rest).length (padded 4 year.natAbs ++ rest) =
        some (padded 4 year.natAbs, rest) :=
      digitRun_append (padded_ne_nil 3 year.natAbs) (all_padded 4 year.natAbs) (by simp)
        (.inr stops)
    split
    next negative =>
      have passed : ('-' :: (padded 4 year.natAbs ++ rest)).dropWhile isBlank =
          '-' :: (padded 4 year.natAbs ++ rest) := List.dropWhile_cons_of_neg (by decide)
      have same : -(year.natAbs : Int) = year := by omega
      simp only [Reader.year, List.cons_append, passed, read, Option.bind_eq_bind, Option.bind_some,
        value_padded, same]
    next positive =>
      have passed : ('+' :: (padded 4 year.natAbs ++ rest)).dropWhile isBlank =
          '+' :: (padded 4 year.natAbs ++ rest) := List.dropWhile_cons_of_neg (by decide)
      have same : (year.natAbs : Int) = year := by omega
      simp only [Reader.year, List.cons_append, passed, read, Option.bind_eq_bind, Option.bind_some,
        value_padded, same]

/-! ### Fractions and marks -/

/-- What is read first is handed on to what reads next. -/
private theorem next_of_read {α β : Type} {first : Option α} {next : α → Option β} {value : α}
    {result : Option β} (read : first = some value) (rest : next value = result) :
    (first >>= next) = result := by
  rw [read]
  exact rest

private theorem fraction_fractionText {nanosecond : Nat} (small : nanosecond < 1000000000) :
    fraction (TimeOfDay.fractionText nanosecond) = some (nanosecond, []) := by
  have point (width n : Nat) (present : 0 < width) (fits : width ≤ 9) (less : n < 10 ^ width) :
      fraction ('.' :: fixed width n) = some (n * 10 ^ (9 - width), []) := by
    have read : digitRun 9 (fixed width n ++ []) = some (fixed width n, []) := by
      refine digitRun_append ?_ (all_fixed width n) (by simp [fits]) (.inr (by simp))
      rw [ne_eq, ← List.length_eq_zero_iff, length_fixed]
      omega
    rw [List.append_nil] at read
    simp [fraction, read, value_append_zeros, value_fixed_of_lt less]
  -- The fraction is left out, or it has three, six or nine digits.
  rw [TimeOfDay.fractionText]
  split
  next zero => simp [fraction, zero]
  · split
    next millis =>
      rw [point 3 _ (by decide) (by decide) (by omega)]
      simp only [Option.some.injEq, Prod.mk.injEq, and_true]
      omega
    · split
      next micros =>
        rw [point 6 _ (by decide) (by decide) (by omega)]
        simp only [Option.some.injEq, Prod.mk.injEq, and_true]
        omega
      · simpa using point 9 nanosecond (by decide) (by decide) (by omega)

private theorem mark_cons (c : Char) (text : List Char) : mark c (c :: text) = some ((), text) := by
  simp [mark]

private theorem blanks_cons {c : Char} (shows : isBlank c = false) (text : List Char) :
    blanks (c :: text) = some ((), c :: text) := by
  simp [blanks, shows]

end Reader

/-! ### Written dates -/

private theorem yearText_injective : Function.Injective yearText := by
  intro year year' same
  have read := @Reader.year_yearText year [] (by simp)
  have read' := @Reader.year_yearText year' [] (by simp)
  rw [same, read'] at read
  simpa using read.symm

/-- No two dates are written alike. -/
theorem Date.written_injective (separator : List Char) : Function.Injective (Date.written separator) := by
  intro one two same
  obtain ⟨year, month, day, real⟩ := one
  obtain ⟨year', month', day', real'⟩ := two
  simp only [Date.written] at same
  -- Month and day have two digits each; whatever stands before them is the year.
  obtain ⟨front, days⟩ := List.append_inj' same (by simp)
  obtain ⟨front, _⟩ := List.append_inj' front rfl
  obtain ⟨front, months⟩ := List.append_inj' front (by simp)
  obtain ⟨years, _⟩ := List.append_inj' front rfl
  have bounds := daysIn_bounds year month
  have bounds' := daysIn_bounds year' month'
  obtain rfl : year = year' := yearText_injective years
  obtain rfl : month = month' := by
    simpa [value_fixed_of_lt (show month < 10 ^ 2 by omega),
      value_fixed_of_lt (show month' < 10 ^ 2 by omega)] using congrArg value months
  obtain rfl : day = day' := by
    simpa [value_fixed_of_lt (show day < 10 ^ 2 by omega),
      value_fixed_of_lt (show day' < 10 ^ 2 by omega)] using congrArg value days
  rfl

theorem all_yearText (year : Int) : ∀ c ∈ yearText year, isDigit c = true ∨ c = '-' ∨ c = '+' := by
  intro c member
  rw [yearText] at member
  split at member
  · exact .inl (all_fixed _ _ c member)
  · rcases List.mem_cons.mp member with rfl | written
    · split <;> simp
    · exact .inl (all_padded _ _ c written)

/-- A written date has nothing but its separator, digits and at most a sign. -/
theorem Date.not_mem_written {c : Char} {separator : List Char} (apart : c ∉ separator)
    (other : ¬ (isDigit c = true ∨ c = '-' ∨ c = '+')) (date : Date) :
    c ∉ date.written separator := by
  have numbers (n : Nat) : c ∉ fixed 2 n := fun member => other (.inl (all_fixed 2 n c member))
  have year : c ∉ yearText date.year := fun member => other (all_yearText date.year c member)
  simp only [Date.written, List.mem_append, not_or]
  exact ⟨⟨⟨⟨year, apart⟩, numbers _⟩, apart⟩, numbers _⟩

/-- No two dates have the same file name. -/
theorem Date.compact_injective : Function.Injective Date.compact := Date.written_injective []

/-- The file name of a date is a single name. -/
theorem Date.slash_not_mem_compact (date : Date) : '/' ∉ date.compact :=
  Date.not_mem_written List.not_mem_nil (by decide) date

/-! ### Stored instants -/

theorem Instant.ofText?_written {moment : Instant} (inside : moment.InCalendar) :
    Instant.ofText? moment.written = some moment := by
  obtain ⟨date, time⟩ := moment
  have ofDate : Date.of? date.year date.month date.day = some date :=
    Date.of?_eq_some.mpr ⟨inside, rfl, rfl, rfl⟩
  have ofTime := TimeOfDay.of?_self time
  have real := date.valid
  have inDay := time.inDay
  have days := daysIn_bounds date.year date.month
  have ends (rest : List Char) : ∀ c ∈ ('-' :: rest).head?, isDigit c = false := by simp [isDigit]
  have year := Reader.year_yearText date.year (ends (fixed 2 date.month ++ '-' ::
    (fixed 2 date.day ++ 'T' :: (fixed 2 time.hour ++ ':' :: (fixed 2 time.minute ++ ':' ::
      (fixed 2 time.second ++ TimeOfDay.fractionText time.nanosecond))))))
  have month := Reader.number_fixed (show date.month < 100 by omega)
  have day := Reader.number_fixed (show date.day < 100 by omega)
  have hour := Reader.number_fixed (show time.hour < 100 by omega)
  have minute := Reader.number_fixed (show time.minute < 100 by omega)
  have second := Reader.number_fixed (show time.second < 100 by omega)
  have fraction := Reader.fraction_fractionText inDay.2.2.2
  have dash := Reader.blanks_cons (show isBlank '-' = false by decide)
  have letter := Reader.blanks_cons (show isBlank 'T' = false by decide)
  have colon := Reader.blanks_cons (show isBlank ':' = false by decide)
  have finish : Reader.blanks [] = some ((), []) := rfl
  have read : Reader.instant (Instant.written ⟨date, time⟩) = some (⟨date, time⟩, []) := by
    simp only [Instant.written, Date.dashed, Date.written, TimeOfDay.written, TimeOfDay.clock,
      List.append_assoc, List.cons_append, List.nil_append]
    -- The parts of the text one after the other, as the reader takes them.
    refine Reader.next_of_read year ?_
    refine Reader.next_of_read (dash _) (Reader.next_of_read (Reader.mark_cons _ _) ?_)
    refine Reader.next_of_read (month _) ?_
    refine Reader.next_of_read (dash _) (Reader.next_of_read (Reader.mark_cons _ _) ?_)
    refine Reader.next_of_read (day _) ?_
    refine Reader.next_of_read (letter _) (Reader.next_of_read (Reader.mark_cons _ _) ?_)
    refine Reader.next_of_read (hour _) ?_
    refine Reader.next_of_read (colon _) (Reader.next_of_read (Reader.mark_cons _ _) ?_)
    refine Reader.next_of_read (minute _) ?_
    refine Reader.next_of_read (colon _) (Reader.next_of_read (Reader.mark_cons _ _) ?_)
    refine Reader.next_of_read (second _) ?_
    refine Reader.next_of_read fraction (Reader.next_of_read finish ?_)
    exact Reader.next_of_read ofDate (Reader.next_of_read ofTime rfl)
  rw [Instant.ofText?, Reader.whole, read]

/-- Nothing outside the calendar can be read. -/
theorem Instant.inCalendar_of_ofText? {text : List Char} {moment : Instant}
    (found : Instant.ofText? text = some moment) : moment.InCalendar := by
  rw [Instant.ofText?, Reader.whole] at found
  split at found
  next read =>
    cases found
    rw [Reader.instant] at read
    -- Eighteen parts are read before the date is made of three of them.
    iterate 18 obtain ⟨_, _, read⟩ := Option.bind_eq_some_iff.mp read
    obtain ⟨date, ofDate, read⟩ := Option.bind_eq_some_iff.mp read
    obtain ⟨time, _, read⟩ := Option.bind_eq_some_iff.mp read
    rw [Option.some.injEq, Prod.mk.injEq] at read
    rw [← read.1]
    exact (Date.of?_eq_some.mp ofDate).1
  · cases found

end Whereabouts.Calendar
