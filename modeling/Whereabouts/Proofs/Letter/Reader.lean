import Whereabouts.Letter.Reader
import Whereabouts.Letter.Utf8
import Whereabouts.Proofs.Calendar.ReadBack
/-!
# What holds of every reader

Whatever a reader knows of letters, whether octets are one does not depend on when they are read.
That messages are sent within the calendar is asked of a reader (`Dated`): no letter may be dated so
late, or so early, that the clock of the zone cannot show it.
-/
namespace Whereabouts.Letter.Reader

open Whereabouts.Calendar

/-- Every date that is found in a letter lies in the calendar, on the clock of the zone. -/
def Dated (reader : Reader) : Prop :=
  ∀ octets parts moment, reader.parts? octets = some parts → parts.sentAt? = some moment →
    (reader.zone.localTime moment).InCalendar

/-- The content of a file is a letter. -/
def IsLetter (reader : Reader) (content : ByteArray) : Prop :=
  (reader.parts? (octetsOf content)).isSome

variable {reader : Reader} {octets : List Char} {received : Instant}

theorem read?_eq_none_iff : reader.read? octets received = none ↔ reader.parts? octets = none := by
  rw [read?, Option.map_eq_none_iff]

/-- A letter without a date counts as sent when it was received. -/
theorem inCalendar_of_read? (dated : reader.Dated) {message : Mail.Message}
    (found : reader.read? octets received = some message) (inside : received.InCalendar) :
    message.sentAt.InCalendar := by
  rw [read?, Option.map_eq_some_iff] at found
  obtain ⟨parts, isLetter, rfl⟩ := found
  cases sent : parts.sentAt? with
  | none => simpa [sent] using inside
  | some moment => simpa [sent] using dated octets parts moment isLetter sent

end Whereabouts.Letter.Reader
