import Whereabouts.Calendar.Date
/-!
# Neighbouring dates

`previous` undoes `next`, and no date lies between a date and the next one, also over the ends of
months and years.
-/
namespace Whereabouts.Calendar.Date

theorem previous_next (date : Date) : date.next.previous = date := by
  obtain ⟨year, month, day, real⟩ := date
  have bounds := daysIn_bounds year month
  by_cases within : day < daysIn year month
  · have back : 1 < day + 1 := by omega
    simp [next, previous, within, back]
  · -- The next day begins a month, and the day before that is the last of this one.
    obtain rfl : day = daysIn year month := by omega
    by_cases inYear : month < 12
    · have back : 1 < month + 1 := by omega
      simp [next, previous, inYear, back]
    · obtain rfl : month = 12 := by omega
      simp [next, previous, daysIn]

/-- No date lies between a date and the next one. -/
theorem lt_next_iff {date today : Date} : date < today.next ↔ date ≤ today := by
  obtain ⟨year, month, day, real⟩ := date
  obtain ⟨year', month', day', real'⟩ := today
  have bounds := daysIn_bounds year month
  have bounds' := daysIn_bounds year' month'
  -- In one month the days count, and otherwise the months do.
  by_cases same : year = year' ∧ month = month'
  · obtain ⟨rfl, rfl⟩ := same
    simp only [lt_def, le_def, rank, next]
    split
    · simp only; omega
    · split <;> simp only <;> omega
  · simp only [lt_def, le_def, rank, next]
    split
    · simp only; omega
    · split <;> simp only <;> omega

theorem lt_iff_le_previous {date today : Date} : date < today ↔ date ≤ today.previous := by
  rw [← lt_next_iff, next_previous]

end Whereabouts.Calendar.Date
