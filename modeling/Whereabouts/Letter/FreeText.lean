import Whereabouts.Letter.EncodedWord
/-!
# Free text

The text in a header that has no form of its own. Blanks around it do not count, a line break within
it is a space, and encoded words are read for what they mean. Blanks between two encoded words do
not count either.
-/
namespace Whereabouts.Letter

structure FreeTextState where
  /-- What was read before the piece, if there was anything. -/
  text? : Option (List Char)
  /-- The piece being read, last character first. -/
  piece : List Char
  /-- Blanks read since the last character of the piece. -/
  gap : List Char
  /-- The text ends in an encoded word. -/
  isAfterWord : Bool

namespace FreeTextState

def initial : FreeTextState := ⟨none, [], [], true⟩

def endPiece (state : FreeTextState) : FreeTextState :=
  if state.piece.isEmpty then state
  else
    let piece := state.piece.reverse
    ⟨some ((state.text?.map (· ++ ' ' :: piece)).getD piece), [], [], false⟩

def read (state : FreeTextState) (c : Char) : FreeTextState :=
  if c = '\n' then state.endPiece
  else if c = ' ' || c = '\t' || c = '\r' then
    if state.piece.isEmpty then state else { state with gap := c :: state.gap }
  else { state with piece := c :: (state.gap ++ state.piece), gap := [] }

def word (state : FreeTextState) (octets : List Char) : FreeTextState :=
  let state := state.endPiece
  let between := if state.isAfterWord then [] else [' ']
  ⟨some (state.text?.getD [] ++ between ++ octets), [], [], true⟩

end FreeTextState

/-- The octets of the text in a header. -/
def freeText (header : List Char) : List Char :=
  let state := foldWords FreeTextState.read (fun _ => true) FreeTextState.word .initial 0 header
  state.endPiece.text?.getD []

example : freeText " a  b\r\n =?utf-8?q?c?= =?utf-8?q?d?=e \n".toList = "a  b cd e".toList := by
  decide

end Whereabouts.Letter
