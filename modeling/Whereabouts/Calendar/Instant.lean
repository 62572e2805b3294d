import Whereabouts.Calendar.Date
import Whereabouts.Calendar.TimeOfDay
/-!
# Instants

A date and a time of day of the board's own place, without a zone. Instants are ordered by date
and then by time; the rank puts both into one number, so the order is that of the integers.
-/
namespace Whereabouts.Calendar

structure Instant where
  date : Date
  time : TimeOfDay
deriving DecidableEq, Inhabited

namespace Instant

def rank (moment : Instant) : Int := moment.date.rank * TimeOfDay.rankBound + moment.time.rank

instance : LE Instant := ⟨fun one two => one.rank ≤ two.rank⟩

instance : LT Instant := ⟨fun one two => one.rank < two.rank⟩

instance (one two : Instant) : Decidable (one ≤ two) :=
  inferInstanceAs (Decidable (one.rank ≤ two.rank))

instance (one two : Instant) : Decidable (one < two) :=
  inferInstanceAs (Decidable (one.rank < two.rank))

theorem le_def {one two : Instant} : one ≤ two ↔ one.rank ≤ two.rank := Iff.rfl

theorem lt_def {one two : Instant} : one < two ↔ one.rank < two.rank := Iff.rfl

theorem eq_of_rank {one two : Instant} (same : one.rank = two.rank) : one = two := by
  obtain ⟨date, time⟩ := one
  obtain ⟨date', time'⟩ := two
  have below := time.rank_lt
  have below' := time'.rank_lt
  simp only [rank, TimeOfDay.rankBound] at same below below'
  have sameDate : date.rank = date'.rank := by omega
  have sameTime : time.rank = time'.rank := by omega
  rw [Date.eq_of_rank sameDate, TimeOfDay.eq_of_rank sameTime]

theorem date_le {one two : Instant} (order : one ≤ two) : one.date ≤ two.date := by
  have below := one.time.rank_lt
  have below' := two.time.rank_lt
  simp only [le_def, rank, TimeOfDay.rankBound] at order below below'
  rw [Date.le_def]
  omega

theorem hour_le {one two : Instant} (order : one ≤ two) (day : one.date = two.date) :
    one.time.hour ≤ two.time.hour := by
  have inDay := one.time.inDay
  have inDay' := two.time.inDay
  simp only [le_def, rank, day, TimeOfDay.rank] at order
  omega

/-- What comes between two moments of a date is on that date. -/
theorem date_eq_of_between {first moment last : Instant} (after : first ≤ moment)
    (before : moment ≤ last) (day : last.date = first.date) : moment.date = first.date := by
  have notBefore := Date.le_def.mp (date_le after)
  have notAfter := Date.le_def.mp (date_le before)
  rw [day] at notAfter
  apply Date.eq_of_rank
  omega

def startOfDay (date : Date) : Instant := ⟨date, .midnight⟩

/-- The last minute of a date; the rest of that minute lies beyond it. -/
def endOfDay (date : Date) : Instant := ⟨date, .lastMinute⟩

/-- The moment that many seconds after the start of a date, or before it. -/
def atSecond (date : Date) (seconds : Int) : Instant :=
  let second := (seconds % 86400).toNat
  ⟨date.shifted (seconds / 86400), second / 3600, second / 60 % 60, second % 60, 0, by
    have : 0 ≤ seconds % 86400 := Int.emod_nonneg _ (by decide)
    have : seconds % 86400 < 86400 := Int.emod_lt_of_pos _ (by decide)
    omega⟩

example : atSecond .epoch (-1) = ⟨⟨1969, 12, 31, by decide⟩, 23, 59, 59, 0, by decide⟩ := by decide

end Instant

end Whereabouts.Calendar
