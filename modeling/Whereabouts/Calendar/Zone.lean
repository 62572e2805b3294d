import Whereabouts.Calendar.Instant
/-!
# Zones

A zone is known by how far its clock is ahead of the clock of the common zone, which may change in
the course of a year. It is never ahead or behind by a whole day.
-/
namespace Whereabouts.Calendar

/-- The moment so many seconds later, or earlier. The fraction of the second stays. -/
def Instant.shifted (moment : Instant) (seconds : Int) : Instant :=
  let whole := atSecond moment.date (moment.time.secondOfDay + seconds)
  { whole with time := { whole.time with
      nanosecond := moment.time.nanosecond
      inDay := by
        have first := whole.time.inDay
        have last := moment.time.inDay
        omega } }

structure Zone where
  /-- By how many seconds the clock is ahead at a moment of the common zone. -/
  ahead : Instant → Int
  withinDay : ∀ moment, (ahead moment).natAbs < 86400

namespace Zone

def common : Zone := ⟨fun _ => 0, fun _ => by decide⟩

/-- What the clock of the zone shows at a moment of the common zone. -/
def localTime (zone : Zone) (moment : Instant) : Instant := moment.shifted (zone.ahead moment)

end Zone

end Whereabouts.Calendar
