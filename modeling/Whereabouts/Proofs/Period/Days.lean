import Whereabouts.Proofs.Calendar.Neighbours
import Whereabouts.Proofs.Period.Reading
/-!
# Periods of whole days

## Main results

`covers_days`: a period that is written as a date, or as two dates in order, is in force from the
first moment of the first date to 23:59 of the last one. `last_minute_uncovered`: the rest of that
minute lies outside, so two such periods leave a gap even where the days follow each other.

## Strategy

Midnight is the least moment of its date, and moments on different dates are ordered as the dates
are. So the dates alone decide whether a moment lies within, but for the last date, where the time
counts as well.
-/
namespace Whereabouts

open Whereabouts.Text Whereabouts.Calendar

/-! ### Moments and their dates -/

namespace Calendar.Instant

private theorem startOfDay_le_iff {date : Date} {moment : Instant} :
    startOfDay date ≤ moment ↔ date ≤ moment.date := by
  have below := moment.time.rank_lt
  simp only [le_def, Date.le_def, rank, startOfDay, TimeOfDay.midnight, TimeOfDay.rank,
    TimeOfDay.rankBound] at below ⊢
  omega

/-- Whether a moment lies in what is left of its date after 23:59. -/
def IsLate (moment : Instant) : Prop := endOfDay moment.date < moment

private theorem le_endOfDay_iff {date : Date} {moment : Instant} :
    moment ≤ endOfDay date ↔ moment.date ≤ date ∧ ¬ (moment.date = date ∧ moment.IsLate) := by
  by_cases same : moment.date = date
  · simp [same, IsLate, lt_def, le_def, Date.le_def]
  · have below := moment.time.rank_lt
    -- On another date the time does not count.
    have different : moment.date.rank ≠ date.rank := fun ranks => same (Date.eq_of_rank ranks)
    simp only [same, false_and, not_false_eq_true, and_true, le_def, Date.le_def, rank, endOfDay,
      TimeOfDay.lastMinute, TimeOfDay.rank, TimeOfDay.rankBound] at below ⊢
    omega

private theorem startOfDay_lt_endOfDay {first last : Date} (ordered : first ≤ last) :
    startOfDay first < endOfDay last := by
  simp only [lt_def, Date.le_def, rank, startOfDay, endOfDay, TimeOfDay.midnight,
    TimeOfDay.lastMinute, TimeOfDay.rank, TimeOfDay.rankBound] at ordered ⊢
  omega

end Calendar.Instant

/-! ### Whole days -/

namespace Period

/-- The texts that name whole days: a date, or two dates with a separator between them. -/
inductive SpansDays (text : List Char) : (first last : Date) → Prop
  | one {date : Date} {dateText : List Char} (parts : Parts text dateText none)
      (form : Endpoint.Form (.date date) (trim dateText)) : SpansDays text date date
  | range {first last : Date} {startText finishText : List Char}
      (parts : Parts text startText (some finishText))
      (startForm : Endpoint.Form (.date first) (trim startText))
      (finishForm : Endpoint.Form (.date last) (trim finishText)) : SpansDays text first last

variable {text : String} {first last : Date}

private theorem SpansDays.parse_eq (spans : SpansDays text.toList first last)
    (ordered : first ≤ last) :
    parse text = .ok ⟨.startOfDay first, .endOfDay last⟩ := by
  refine parse_eq_ok.mpr ⟨?_, Instant.startOfDay_lt_endOfDay ordered⟩
  cases spans with
  | one parts form => exact .alone parts form (.date _)
  | range parts startForm finishForm => exact .both parts startForm (.date _) finishForm (.date _)

private theorem contains_days {moment : Instant} :
    contains ⟨.startOfDay first, .endOfDay last⟩ moment = true ↔
      first ≤ moment.date ∧ moment.date ≤ last ∧ ¬ (moment.date = last ∧ moment.IsLate) := by
  rw [contains, Bool.and_eq_true, decide_eq_true_eq, decide_eq_true_eq, Instant.startOfDay_le_iff,
    Instant.le_endOfDay_iff]

/-- Between the first of some days and the last of the days after them, no moment is missed but what
is late on a day that ends one of the periods. -/
private theorem uncovered_iff {middle : Date} {moment : Instant} (ordered : middle.next ≤ last)
    (after : first ≤ moment.date) (before : moment.date ≤ last) :
    contains ⟨.startOfDay first, .endOfDay middle⟩ moment = false ∧
        contains ⟨.startOfDay middle.next, .endOfDay last⟩ moment = false ↔
      (moment.date = middle ∨ moment.date = last) ∧ moment.IsLate := by
  simp only [← Bool.not_eq_true, contains_days]
  by_cases early : moment.date ≤ middle
  · have inFirst := Date.lt_next_iff.mpr early
    have notSecond : ¬ middle.next ≤ moment.date := Int.not_le.mpr inFirst
    have notLast : moment.date ≠ last := fun same => notSecond (same ▸ ordered)
    simp [after, early, notSecond, notLast]
  · have inSecond : middle.next ≤ moment.date :=
      Int.not_lt.mp fun less => early (Date.lt_next_iff.mp less)
    have notMiddle : moment.date ≠ middle := fun same => early (same ▸ Int.le_refl _)
    simp [early, inSecond, before, notMiddle]

/-- Whole days are in force until 23:59 of the last of them. Where a period of whole days follows
another, the rest of that minute belongs to neither. -/
theorem covers_days (spans : SpansDays text.toList first last) (ordered : first ≤ last) :
    ∃ period, parse text = .ok period ∧
      (∀ moment, period.contains moment = true ↔
        first ≤ moment.date ∧ moment.date ≤ last ∧ ¬ (moment.date = last ∧ moment.IsLate)) ∧
      ∀ (text' : String) (last' : Date), SpansDays text'.toList last.next last' →
        last.next ≤ last' → ∃ period', parse text' = .ok period' ∧
          ∀ moment : Instant, first ≤ moment.date → moment.date ≤ last' →
            (period.contains moment = false ∧ period'.contains moment = false ↔
              (moment.date = last ∨ moment.date = last') ∧ moment.IsLate) := by
  refine ⟨_, spans.parse_eq ordered, fun _ => contains_days, ?_⟩
  intro text' last' spans' ordered'
  exact ⟨_, spans'.parse_eq ordered', fun _ after before => uncovered_iff ordered' after before⟩

def tenthOfMay : Date := ⟨2024, 5, 10, by decide⟩

private theorem spansDays_tenthOfMay : SpansDays "2024/05/10".toList tenthOfMay tenthOfMay :=
  .one (.alone (splitAt?_eq_none.mp (by decide))) (endpoint?_eq_some.mp (by decide))

private theorem spansDays_following :
    SpansDays "2024-5-11 〜 2024/05/12".toList tenthOfMay.next tenthOfMay.next.next := by
  have whole : "2024-5-11 〜 2024/05/12".toList =
      "2024-5-11 ".toList ++ '〜' :: " 2024/05/12".toList := by decide
  rw [whole]
  exact .range (.both (splitAt?_eq_none.mp (by decide)) (by decide))
    (endpoint?_eq_some.mp (by decide)) (endpoint?_eq_some.mp (by decide))

/-- A day and the two days after it. -/
theorem covers_days_of_three :
    SpansDays "2024/05/10".toList tenthOfMay tenthOfMay ∧
      SpansDays "2024-5-11 〜 2024/05/12".toList tenthOfMay.next tenthOfMay.next.next ∧
      ∃ period period', parse "2024/05/10" = .ok period ∧
        parse "2024-5-11 〜 2024/05/12" = .ok period' ∧
        ∀ moment : Instant, moment.date = tenthOfMay.next →
          period.contains moment = true ∨ period'.contains moment = true := by
  obtain ⟨period, read, _, following⟩ := covers_days spansDays_tenthOfMay (by decide)
  obtain ⟨period', read', uncovered⟩ := following _ _ spansDays_following (by decide)
  refine ⟨spansDays_tenthOfMay, spansDays_following, period, period', read, read', ?_⟩
  intro moment day
  -- A moment that neither covers is on another day.
  by_contra neither
  rw [not_or, Bool.not_eq_true, Bool.not_eq_true] at neither
  have late := (uncovered moment (by rw [day]; decide) (by rw [day]; decide)).mp neither
  rw [day] at late
  exact absurd late.1 (by decide)

/-- Half a minute before midnight the period of the day is over and that of the next day has not
begun. -/
theorem last_minute_uncovered :
    let moment : Instant := ⟨tenthOfMay, 23, 59, 30, 0, by decide⟩
    tenthOfMay ≤ moment.date ∧ moment.date ≤ tenthOfMay ∧
      (∃ period, parse "2024/05/10" = .ok period ∧ period.contains moment = false) ∧
      ∃ period', parse "2024-5-11 〜 2024/05/12" = .ok period' ∧ period'.contains moment = false :=
  ⟨by decide, by decide, ⟨_, spansDays_tenthOfMay.parse_eq (by decide), by decide⟩,
    ⟨_, spansDays_following.parse_eq (by decide), by decide⟩⟩

end Period

end Whereabouts
