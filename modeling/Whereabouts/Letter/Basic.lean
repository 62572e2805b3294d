import Whereabouts.Letter.Content
import Whereabouts.Letter.Reader
import Whereabouts.Letter.Sender
import Whereabouts.Letter.SentDate
/-!
# Letters

A letter is a file of octets with a head and a content. Octets with neither a header nor an end of
the head are no letter. All texts are taken as UTF-8, whatever character set the letter names for
them.
-/
namespace Whereabouts.Letter

open Whereabouts.Calendar

/-- The value of the header, if its octets are UTF-8. -/
def returnPathIn? (head : Head) : Option (List Char) :=
  match head.value? "return-path" with
  | none => none
  | some value => if isUtf8 value then some (decodeUtf8 value) else none

def parts? (octets : List Char) : Option Parts :=
  let ⟨head, text⟩ := contentOf octets
  if head.headers.isEmpty && head.rest.isNone then none
  else
    some {
      sender? := (head.value? "from").map senderIn
      returnPath? := returnPathIn? head
      sentAt? := (head.value? "date").bind sentIn?
      text? := some text }

/-- Reads letters at a place of the zone. -/
def reader (zone : Zone) : Reader := ⟨parts?, zone⟩

end Whereabouts.Letter
