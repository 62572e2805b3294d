import Whereabouts.Calendar.Zone
import Whereabouts.Mail.Vetting
import Whereabouts.Text.Blank
/-!
# Reading letters

What the board needs of a letter are its sender, its return path, its date and its text. A parser
finds these parts in the octets of a file, or finds that they are no letter; which character sets and
encodings it knows is its own affair, and nothing here depends on it. The date is taken to the clock
of the board's place.
-/
namespace Whereabouts.Letter

open Whereabouts.Calendar Whereabouts.Mail

structure Parts where
  /-- The address of the first sender. -/
  sender? : Option (List Char)
  /-- The return path as it stands in its header. -/
  returnPath? : Option (List Char)
  /-- When the letter was sent, in the common zone. -/
  sentAt? : Option Instant
  text? : Option (List Char)

structure Reader where
  /-- The parts of a letter; nothing if the octets are none. -/
  parts? : (octets : List Char) → Option Parts
  /-- Where the board is. -/
  zone : Zone

/-- The message in a letter. A letter without a date counts as sent when it was received. -/
def Reader.read? (reader : Reader) (octets : List Char) (received : Instant) : Option Message :=
  (reader.parts? octets).map fun parts => {
    fromHeader := String.ofList (parts.sender?.getD [])
    returnPath := parts.returnPath?.map fun path => String.ofList (Text.trim path)
    sentAt := (parts.sentAt?.map reader.zone.localTime).getD received
    body := String.ofList (parts.text?.getD []) }

end Whereabouts.Letter
