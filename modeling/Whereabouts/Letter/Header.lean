import Whereabouts.Letter.SentDate
import Whereabouts.Text.Find
/-!
# Headers

The head of a letter ends at a blank line. A header's name is the text before the colon without its
blanks, wherever these stand; a colon before the name does not count. The value goes to the end of
the line and on through every line that begins with a blank; that of a date also goes on where the
name of its zone does. Lines without a colon are passed over, but for one that the letter ends in:
it is the name of a header without a value. Names do not depend on case, and of headers with one
name the last counts.
-/
namespace Whereabouts.Letter

open Whereabouts.Text

/-- The blanks of a head. -/
def isHeadBlank (c : Char) : Bool := c == ' ' || c == '\t' || c == '\n' || c == '\r' || c == '\x0c'

def lowerAscii (text : List Char) : List Char := text.map Char.toLower

structure Header where
  /-- In lower case. -/
  name : List Char
  /-- All between the colon and the next header. -/
  value : List Char
deriving DecidableEq

structure Head where
  /-- The last header first. -/
  headers : List Header
  /-- What follows the head; nothing if the letter ends within it. -/
  rest : Option (List Char)
deriving DecidableEq

/-- The reading of the date that the value of the header is, if it is one. -/
def dateOf? (name : List Char) : Option DateState :=
  if name = "date".toList ∨ name = "resent-date".toList then some .initial else none

/-- Where the reading of a head stands. -/
inductive Reading where
  /-- In a name, of which this was read, last character first. -/
  | name (isLineBlank : Bool) (read : List Char)
  /-- In the value of a header, of which this was read, last character first. -/
  | value (name read : List Char) (date? : Option DateState)

/-- Whether the value of a header ends with the character that comes before the text. -/
def endsValue (date? : Option DateState) (c : Char) (text : List Char) : Bool :=
  c == '\n' && !(text.head? == some ' ' || text.head? == some '\t') &&
    date?.all fun date => date.lacking = 0

def headFrom (reading : Reading) (headers : List Header) : (text : List Char) → Head
  | [] =>
    match reading with
    | .name _ [] => ⟨headers, none⟩
    | .name _ read => ⟨⟨lowerAscii read.reverse, []⟩ :: headers, none⟩
    | .value name read _ => ⟨⟨name, read.reverse⟩ :: headers, none⟩
  | c :: text =>
    match reading with
    | .name isLineBlank read =>
      if c = '\n' then
        if isLineBlank then ⟨headers, some text⟩ else headFrom (.name true []) headers text
      else if isHeadBlank c then headFrom (.name isLineBlank read) headers text
      else if c ≠ ':' then headFrom (.name false (c :: read)) headers text
      else if read.isEmpty then headFrom (.name false []) headers text
      else
        let name := lowerAscii read.reverse
        headFrom (.value name [] (dateOf? name)) headers text
    | .value name read date? =>
      if endsValue date? c text then
        headFrom (.name true []) (⟨name, (c :: read).reverse⟩ :: headers) text
      else headFrom (.value name (c :: read) (date?.map (·.read c))) headers text

def readHead (text : List Char) : Head := headFrom (.name true []) [] text

namespace Head

def value? (head : Head) (name : String) : Option (List Char) :=
  (head.headers.find? fun header => header.name = name.toList).map (·.value)

end Head

example : readHead "stray\n:Fr om: a\n b\n\nx".toList =
    ⟨[⟨"from".toList, " a\n b\n".toList⟩], some "x".toList⟩ := by
  decide

end Whereabouts.Letter
