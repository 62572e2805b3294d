/-!
# Times of day

A time of day to the nanosecond. Second 60 is a leap second, which any minute may have.
-/
namespace Whereabouts.Calendar

structure TimeOfDay where
  hour : Nat
  minute : Nat
  second : Nat
  nanosecond : Nat
  inDay : hour < 24 ∧ minute < 60 ∧ second ≤ 60 ∧ nanosecond < 1000000000
deriving DecidableEq

namespace TimeOfDay

def of? (hour minute second nanosecond : Nat) : Option TimeOfDay :=
  if inDay : hour < 24 ∧ minute < 60 ∧ second ≤ 60 ∧ nanosecond < 1000000000 then
    some ⟨hour, minute, second, nanosecond, inDay⟩
  else none

def midnight : TimeOfDay := ⟨0, 0, 0, 0, by decide⟩

/-- 23:59, the minute with which a day counts as over. -/
def lastMinute : TimeOfDay := ⟨23, 59, 0, 0, by decide⟩

instance : Inhabited TimeOfDay := ⟨midnight⟩

def secondOfDay (time : TimeOfDay) : Nat := (time.hour * 60 + time.minute) * 60 + time.second

/-- A number that grows with the time. -/
def rank (time : TimeOfDay) : Nat :=
  ((time.hour * 60 + time.minute) * 61 + time.second) * 1000000000 + time.nanosecond

/-- More than the rank of any time of day. -/
def rankBound : Nat := 24 * 60 * 61 * 1000000000

theorem rank_lt (time : TimeOfDay) : time.rank < rankBound := by
  have := time.inDay
  simp only [rank, rankBound]
  omega

theorem eq_of_rank {one two : TimeOfDay} (same : one.rank = two.rank) : one = two := by
  obtain ⟨hour, minute, second, nanosecond, inDay⟩ := one
  obtain ⟨hour', minute', second', nanosecond', inDay'⟩ := two
  simp only [rank] at same
  obtain ⟨rfl, rfl, rfl, rfl⟩ :
      hour = hour' ∧ minute = minute' ∧ second = second' ∧ nanosecond = nanosecond' := by omega
  rfl

end TimeOfDay

end Whereabouts.Calendar
