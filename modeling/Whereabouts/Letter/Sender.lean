import Whereabouts.Letter.EncodedWord
import Whereabouts.Text.Blank
/-!
# Senders

The address in a From header. The entries of the header are separated by commas. An entry is an
address, alone or in angle brackets beside a name; names may be quoted or encoded, and comments
stand in parentheses. Outside of brackets a text with an at sign is an address and any other a name,
and so is every text before a quote. A space parts an unquoted text from the name before it, and an
encoded word from all but another one directly before it. A name without blanks is an address if
there is no other but a comment. The name of a group goes before its entries with a colon, a
semicolon ends the group, and neither makes an entry. The first entry counts, and other names and
comments have no address.
-/
namespace Whereabouts.Letter

inductive Place where
  | name
  | quote
  | address
  | comment
  /-- After a line break. The blank that the next line begins with belongs to the break. -/
  | lineBreak
deriving DecidableEq

structure SenderState where
  place : Place
  /-- The places around this one, innermost first. -/
  around : List Place
  /-- The piece being read, last character first. -/
  piece : List Char
  /-- Blanks read since the last character of the piece. -/
  gap : List Char
  /-- The piece has an at sign. -/
  isAddress : Bool
  /-- The next character begins a word. -/
  isStart : Bool
  /-- The next character follows a backslash. -/
  isEscaped : Bool
  /-- Nothing but blanks was read after an encoded word. -/
  isAfterWord : Bool
  /-- The name in the entry, as far as it was read. -/
  name? : Option (List Char)
  /-- The entry has a comment. -/
  isCommented : Bool
  /-- The address in the entry, as far as it was read. -/
  address : List Char
  /-- The address of the first entry, if one has ended; empty if that has none. -/
  first? : Option (List Char)

namespace SenderState

def initial : SenderState where
  place := .name
  around := []
  piece := []
  gap := []
  isAddress := false
  isStart := true
  isEscaped := false
  isAfterWord := false
  name? := none
  isCommented := false
  address := []
  first? := none

/-- The piece read so far goes where it belongs. Outside of quotes a space parts it from the name
before. -/
def endPiece (state : SenderState) : SenderState :=
  if state.piece.isEmpty then state
  else
    let text := decodeUtf8 state.piece.reverse
    let ended :=
      { state with piece := [], gap := [], isAddress := false, isStart := true, isEscaped := false }
    match state.place with
    | .comment => { ended with isCommented := true }
    | .quote => { ended with name? := some (state.name?.getD [] ++ text) }
    | place =>
      if place = .address || state.isAddress then { ended with address := state.address ++ text }
      else { ended with name? := some ((state.name?.map (· ++ ' ' :: text)).getD text) }

def clear (state : SenderState) : SenderState :=
  { state with name? := none, isCommented := false, address := [] }

/-- The address that a name stands for. -/
def addressOfName (state : SenderState) : List Char :=
  match state.name? with
  | some name => if state.isCommented && !name.any Text.isBlank then name else []
  | none => []

/-- What was read for the entry makes one, unless it is nothing. -/
def endEntry (state : SenderState) : SenderState :=
  if state.address.isEmpty && state.name?.isNone && !state.isCommented then state
  else
    let address := if state.address.isEmpty then state.addressOfName else state.address
    { state.clear with first? := some (state.first?.getD address) }

def enter (state : SenderState) (place : Place) : SenderState :=
  { state with place, around := state.place :: state.around }

def leave (state : SenderState) : SenderState :=
  match state.around with
  | [] => state
  | place :: around => { state with place, around }

/-- A character of a piece. -/
def push (state : SenderState) (c : Char) : SenderState :=
  { state with
    piece := c :: (state.gap ++ state.piece), gap := [], isEscaped := false, isStart := false }

/-- A character that belongs to the piece only if more of it follows. -/
def wait (state : SenderState) (c : Char) : SenderState :=
  if state.piece.isEmpty then state else { state with gap := c :: state.gap }

/-- A blank ends a word; in quotes it is a character of its own. -/
def blank (state : SenderState) (c : Char) : SenderState :=
  let state := { state with isStart := true, isEscaped := false }
  if state.place = .quote then { state with piece := c :: (state.gap ++ state.piece), gap := [] }
  else state.wait c

/-- A backslash ends the piece; a quoted one has all that was read. -/
def escape (state : SenderState) : SenderState :=
  let whole :=
    if state.place = .quote then { state with piece := state.gap ++ state.piece } else state
  { whole.endPiece with isEscaped := true }

def breakLine (state : SenderState) : SenderState :=
  { state.endPiece with isStart := true }.enter .lineBreak

/-- Goes on in the next line. In quotes the line break is a space of the name. -/
def joinLine (state : SenderState) : SenderState :=
  let state := state.leave
  if state.place = .quote then { state with name? := some (state.name?.getD [] ++ [' ']) }
  else state

/-- Reads a character that is no blank. -/
def readVisible (state : SenderState) (c : Char) : SenderState :=
  let isName := state.place = .name
  let isFree := !state.isEscaped
  if c = '\\' && !isName && isFree then state.escape
  else if c = ',' && isName then state.endPiece.endEntry
  else if c = '<' && isName then { state with isAddress := false }.endPiece.enter .address
  else if c = '>' && state.place = .address then state.endPiece.leave
  else if c = '"' && isFree && isName then (state.enter .quote).endPiece
  else if c = '"' && isFree && state.place = .quote then state.endPiece.leave
  else if c = '(' && state.place = .comment && isFree then (state.enter .comment).push c
  else if c = '(' && state.place ≠ .quote && isFree then state.endPiece.enter .comment
  else if c = ')' && state.place = .comment && isFree then
    if state.around.head? = some .comment then state.leave.push c else state.endPiece.leave
  else if c = ':' && isName && isFree then state.endPiece.clear
  else if c = ';' && isName then state.endPiece.endEntry
  else { state with isAddress := state.isAddress || (c = '@' && isName) }.push c

def read (state : SenderState) (c : Char) : SenderState :=
  if state.place = .lineBreak then state.joinLine
  else if c = '\n' then state.breakLine
  else if c = ' ' || c = '\t' then state.blank c
  else if c = '\r' then state.wait c
  else { state with isAfterWord := false }.readVisible c

/-- An encoded word is part of the name; in a comment it is part of that. -/
def word (state : SenderState) (octets : List Char) : SenderState :=
  let ended := { state.endPiece with isAfterWord := true }
  let text := decodeUtf8 octets
  if state.place = .comment then { ended with isCommented := true }
  else
    match ended.name? with
    | none => { ended with name? := some text }
    | some name =>
      let isParted := state.place ≠ .quote && !state.isAfterWord
      { ended with name? := some (name ++ if isParted then ' ' :: text else text) }

end SenderState

/-- The address of the sender; empty if the header has none. A piece that the letter ends in does
not count. -/
def senderIn (header : List Char) : List Char :=
  let mayBegin (state : SenderState) : Bool := state.isStart && !state.isEscaped
  let state := foldWords SenderState.read mayBegin SenderState.word .initial 0 header
  state.endEntry.first?.getD []

example : senderIn " \"Doe, A.\" <a@b> (x), c@d\r\n".toList = "a@b".toList := by decide
example : senderIn " Team: ; Rest: a@b, c@d;\n".toList = "a@b".toList := by decide

end Whereabouts.Letter
