import Mathlib.Data.List.Basic
import Whereabouts.Letter.Basic
import Whereabouts.Proofs.Letter.Reader
/-!
# Letters are sent within the calendar

## Main result

`dated_reader`: every date that is found in a letter lies in the calendar, whatever the zone of the
board.

## Strategy

No part of a date has more than four digits, whatever the header is; this holds of the digits read
and the free places together, so every character read keeps it. Hence the month that a date begins
with lies in the first ten thousand years, and what is counted on from it moves the year by less than
the years that are left. The zone moves it by one date more at most.
-/
namespace Whereabouts

open Whereabouts.Calendar Whereabouts.Text

/-! ### Shifted dates -/

namespace Calendar.Date

private theorem year_next (date : Date) :
    date.year ≤ date.next.year ∧ date.next.year ≤ date.year + 1 := by
  rw [next]
  split
  · simp
  · split <;> simp

private theorem year_previous (date : Date) :
    date.year - 1 ≤ date.previous.year ∧ date.previous.year ≤ date.year := by
  rw [previous]
  split
  · simp
  · split <;> simp

/-- A year has more than one day. -/
private theorem year_shifted (date : Date) (days : Int) :
    date.year - days.natAbs ≤ (date.shifted days).year ∧
      (date.shifted days).year ≤ date.year + days.natAbs := by
  -- Each day moves the year by at most one, so many days move it by at most as many.
  have forward (count : Nat) : date.year ≤ (count.repeat next date).year ∧
      (count.repeat next date).year ≤ date.year + count := by
    induction count with
    | zero => simp [Nat.repeat]
    | succ count ih =>
      have step := year_next (count.repeat next date)
      rw [Nat.repeat]
      omega
  have backward (count : Nat) : date.year - count ≤ (count.repeat previous date).year ∧
      (count.repeat previous date).year ≤ date.year := by
    induction count with
    | zero => simp [Nat.repeat]
    | succ count ih =>
      have step := year_previous (count.repeat previous date)
      rw [Nat.repeat]
      omega
  cases days with
  | ofNat days =>
    have bounds := forward days
    simp only [shifted, Int.ofNat_eq_natCast]
    omega
  | negSucc days =>
    have bounds := backward (days + 1)
    simp only [shifted]
    omega

end Calendar.Date

namespace Letter

/-! ### Parts of a date -/

/-- The number has at most four digits, and the free places are among them. -/
def DatePart.Fits (part : DatePart) : Prop := part.number + 10 ^ part.free ≤ 10000

private theorem DatePart.fits_push {part : DatePart} (fits : part.Fits) {c : Char}
    (digit : isDigit c = true) : (part.push c).Fits := by
  obtain ⟨number, free⟩ := part
  cases free with
  | zero => exact fits
  | succ free =>
    have small : digitValue c ≤ 9 := by
      simp only [isDigit, Bool.and_eq_true, decide_eq_true_eq] at digit
      rw [digitValue]
      omega
    -- A digit is worth at most nine tenths of the places that were free, and one tenth stays free.
    have product : digitValue c * 10 ^ free ≤ 9 * 10 ^ free := Nat.mul_le_mul_right _ small
    simp only [Fits, Nat.pow_succ] at fits
    simp only [Fits, push, Nat.pow_eq]
    omega

private theorem DatePart.fits_settle {part : DatePart} (fits : part.Fits) : part.settle.Fits := by
  have less := Nat.div_le_self part.number (10 ^ part.free)
  simp only [Fits, settle] at fits ⊢
  exact Nat.le_trans (Nat.add_le_add_right less _) fits

namespace DateState

def Fits (state : DateState) : Prop := ∀ part ∈ state.parts, part.Fits

variable {state : DateState}

private theorem Fits.part (fits : state.Fits) (position : Nat) : (state.part position).Fits := by
  rw [DateState.part, List.getD_eq_getElem?_getD]
  cases found : state.parts[position]? with
  | none => simp [DatePart.Fits]
  | some part => exact fits part (List.mem_of_getElem? found)

private theorem Fits.setPart (fits : state.Fits) {part : DatePart} (fitsPart : part.Fits) :
    (state.setPart part).Fits := by
  intro other member
  rcases List.mem_or_eq_of_mem_set member with old | rfl
  · exact fits other old
  · exact fitsPart

private theorem fits_initial : initial.Fits := by
  simp [Fits, initial, DatePart.Fits]

private theorem Fits.endPart (fits : state.Fits) : state.endPart.Fits := by
  rw [DateState.endPart]
  split
  · exact fits.setPart (DatePart.fits_settle (fits.part _))
  · exact fits

private theorem Fits.readLetter (fits : state.Fits) (c : Char) : (state.readLetter c).Fits := by
  rw [DateState.readLetter]
  split
  · exact fits
  · split
    · have empty : DatePart.Fits ⟨0, 0⟩ := by simp [DatePart.Fits]
      exact fits.setPart empty
    · exact fits

private theorem Fits.readOutside (fits : state.Fits) (c : Char) : (state.readOutside c).Fits := by
  rw [DateState.readOutside]
  split
  next digit => exact fits.setPart (DatePart.fits_push (fits.part _) digit)
  split
  · exact fits.readLetter c
  split
  · split
    · exact fits.endPart
    · exact fits
  split
  · exact fits
  split
  · exact fits
  split
  · exact fits.endPart
  split
  · exact fits_initial
  · split <;> exact fits

private theorem Fits.read (fits : state.Fits) (c : Char) : (state.read c).Fits := by
  rw [DateState.read]
  split
  · exact fits
  · split
    · exact fits.readOutside c
    · exact fits

private theorem Fits.foldl_read (fits : state.Fits) (text : List Char) :
    (text.foldl DateState.read state).Fits := by
  induction text generalizing state with
  | nil => exact fits
  | cons c text ih => exact ih (fits.read c)

private theorem Fits.number_lt (fits : state.Fits) (position : Nat) :
    state.number position < 10000 := by
  have positive : 0 < 10 ^ (state.part position).free := Nat.pow_pos (by decide)
  have bound := fits.part position
  rw [DatePart.Fits] at bound
  rw [number]
  omega

end DateState

/-! ### Instants -/

private theorem fullYear_lt {year : Nat} (small : year < 10000) : fullYear year < 10000 := by
  rw [fullYear]
  split
  · omega
  · split <;> omega

/-- No zone is further from the common one than the 23 hours and 59 minutes that digits can say. -/
private theorem zoneSeconds_bounds (name : List Char) (isEast : Bool) (number : Nat) :
    -86400 < zoneSeconds name isEast number ∧ zoneSeconds name isEast number < 86400 := by
  have hours : (zoneNames.lookup (String.ofList name)).getD 0 ≤ 8 := by
    cases found : zoneNames.lookup (String.ofList name) with
    | none => simp
    | some hours =>
      obtain ⟨before, after, split, _⟩ := List.lookup_eq_some_iff.mp found
      have listed : (String.ofList name, hours) ∈ zoneNames := by simp [split]
      -- The bound holds of every zone that is listed, so the one that was found need not be known.
      have bound : ∀ entry ∈ zoneNames, entry.2 ≤ 8 := by decide
      exact bound _ listed
  have digits : number / 100 % 24 * 3600 + number % 100 % 60 * 60 < 86400 := by omega
  simp only [zoneSeconds]
  split <;> split <;> omega

/-- A date that is read has a year of five digits at most. -/
private theorem year_of_sentIn? {header : List Char} {moment : Instant}
    (found : sentIn? header = some moment) :
    -30000 ≤ moment.date.year ∧ moment.date.year ≤ 30000 := by
  unfold sentIn? at found
  dsimp only at found
  generalize (if header.getLast? = some '\n' then header.dropLast else header) = text at found
  have fits := DateState.fits_initial.foldl_read text
  generalize text.foldl DateState.read .initial = state at found fits
  split at found
  · cases found
  · obtain ⟨first, ofFirst, rfl⟩ := Option.map_eq_some_iff.mp found
    have year := fullYear_lt (fits.number_lt 2)
    have sameYear := (Date.of?_eq_some.mp ofFirst).2.1
    have zone := zoneSeconds_bounds state.zone state.isEast (state.number 6)
    have days := fits.number_lt 0
    have hours := fits.number_lt 3
    have minutes := fits.number_lt 4
    have seconds := fits.number_lt 5
    -- Only the size of what is counted on matters from here.
    generalize sum : ((((state.number 0 : Int) - 1) * 24 + state.number 3) * 60 +
      state.number 4) * 60 + state.number 5 -
        zoneSeconds state.zone state.isEast (state.number 6) = elapsed
    have bounds := Date.year_shifted first (elapsed / 86400)
    have few : (elapsed / 86400).natAbs ≤ 20000 := by omega
    simp only [Instant.atSecond]
    omega

/-- The clock of a zone shows the date of the common zone or one beside it. -/
private theorem year_localTime (zone : Zone) (moment : Instant) :
    moment.date.year - 1 ≤ (zone.localTime moment).date.year ∧
      (zone.localTime moment).date.year ≤ moment.date.year + 1 := by
  have ahead := zone.withinDay moment
  have second : moment.time.secondOfDay ≤ 86400 := by
    have inDay := moment.time.inDay
    rw [TimeOfDay.secondOfDay]
    omega
  have bounds := Date.year_shifted moment.date ((moment.time.secondOfDay + zone.ahead moment) / 86400)
  simp only [Zone.localTime, Instant.shifted, Instant.atSecond]
  omega

/-- The dates that are read in letters lie far within the calendar. -/
theorem dated_reader (zone : Zone) : (reader zone).Dated := by
  intro octets parts moment found sent
  simp only [reader, parts?] at found
  split at found
  · cases found
  · cases found
    obtain ⟨header, _, read⟩ := Option.bind_eq_some_iff.mp sent
    have year := year_of_sentIn? read
    have near := year_localTime zone moment
    simp only [Instant.InCalendar, Date.InCalendar, Date.firstYear, Date.lastYear]
    simp only [reader]
    omega

end Letter

end Whereabouts
