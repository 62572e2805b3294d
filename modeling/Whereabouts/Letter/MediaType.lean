import Whereabouts.Letter.EncodedWord
import Whereabouts.Letter.Header
/-!
# Media types

A media type is a type and a subtype, followed by parameters after semicolons. A parameter's value
may be quoted or have encoded words; text in parentheses is a comment. A star after a parameter's
name marks a value that is spelled with percent signs after its character set and language, or one
that is given in numbered pieces, or both. A line break ends what was begun before it, but a quoted
value goes on; words in several lines before the slash are one type, the last of them. A comment
that a line break ends was none: its text begins the name of the parameter that follows. Nothing but
a parameter's value depends on case.
-/
namespace Whereabouts.Letter

open Whereabouts.Text

structure MediaType where
  type : List Char
  subtype : List Char
  parameters : List (List Char × List Char)
deriving DecidableEq

/-! ### Reading a header -/

inductive MediaPlace where
  | type
  | subtype
  | name
  | value
  | quote
  /-- After a line break in quotes. The blank that the next line begins with belongs to the
  break. -/
  | lineBreak
  | comment
deriving DecidableEq

/-- A piece of a value that continues another: the parameter's name, the number of the piece and its
text. -/
structure Continuation where
  name : List Char
  number : Nat
  text : List Char
deriving DecidableEq

structure MediaState where
  place : MediaPlace
  /-- The places around a comment, innermost first. -/
  around : List MediaPlace
  /-- The piece being read, last character first. -/
  piece : List Char
  /-- What was read since the last character of the piece and counts only if more follows. -/
  gap : List Char
  /-- The next character begins a word. -/
  isStart : Bool
  /-- The next character follows a backslash. -/
  isEscaped : Bool
  /-- A line break in quotes was read. -/
  isBroken : Bool
  type : List Char
  subtype : List Char
  /-- The name of the parameter being read; empty outside of parameters. -/
  parameter : List Char
  /-- The name has a star. -/
  isStarred : Bool
  /-- The value is spelled with percent signs. -/
  isEncoded : Bool
  /-- The character set before an encoded value was read. -/
  hasCharset : Bool
  /-- The number of the piece of a value; 0 for the first or only one. -/
  number : Nat
  /-- The part of the value that was read before the piece, if there is one. -/
  value? : Option (List Char)
  parameters : List (List Char × List Char)
  continuations : List Continuation

namespace MediaState

def initial : MediaState where
  place := .type
  around := []
  piece := []
  gap := []
  isStart := true
  isEscaped := false
  isBroken := false
  type := []
  subtype := []
  parameter := []
  isStarred := false
  isEncoded := false
  hasCharset := false
  number := 0
  value? := none
  parameters := []
  continuations := []

def dropPiece (state : MediaState) : MediaState :=
  { state with piece := [], gap := [], isStart := true }

/-- Every character belongs to the piece before it if more of the piece follows. -/
def wait (state : MediaState) (c : Char) : MediaState :=
  if state.piece.isEmpty then state else { state with gap := c :: state.gap }

/-- The character that was waited for last begins a piece or belongs to one. -/
def keep (state : MediaState) (c : Char) : MediaState :=
  { state with piece := if state.piece.isEmpty then [c] else state.gap ++ state.piece, gap := [] }

/-- A character of a piece. -/
def push (state : MediaState) (c : Char) : MediaState :=
  { state.keep c with isEscaped := false, isStart := false }

/-- The piece is a type, a subtype or the name of a parameter. -/
def endWord (state : MediaState) : MediaState :=
  if state.piece.isEmpty then state
  else
    let word := lowerAscii state.piece.reverse
    match state.place with
    | .type => { state.dropPiece with type := word }
    | .subtype => { state.dropPiece with subtype := word }
    | .name => { state.dropPiece with parameter := word }
    | _ => state

/-- The number in a run of digits with a plus sign or none before it. Anything else counts as 0, and
so does a number of more than 32 bits. -/
def numberIn (run : List Char) : Nat :=
  let digits := if run.head? = some '+' then run.drop 1 else run
  if digits.all isDigit && value digits < 4294967296 then value digits else 0

/-- The piece is the number of a piece. -/
def endNumber (state : MediaState) : MediaState :=
  if state.piece.isEmpty then state
  else { state.dropPiece with number := numberIn state.piece.reverse }

/-- The text with percent signs and two digits each for the octets they mean; nothing if a percent
sign stands before anything else. Digits that the text ends before do not count. -/
def percentDecoded? : (text : List Char) → Option (List Char)
  | [] => some []
  | '%' :: high :: low :: text => do
    let octet := (← hexDigitValue? high) * 16 + (← hexDigitValue? low)
    return Char.ofNat octet :: (← percentDecoded? text)
  | ['%', high] => (hexDigitValue? high).map fun _ => []
  | ['%'] => some []
  | c :: text => (percentDecoded? text).map (c :: ·)

/-- The value goes on with these octets. -/
def extendValue (state : MediaState) (octets : List Char) : MediaState :=
  { state with value? := some (state.value?.getD [] ++ mended octets) }

/-- The last piece of a value without the line breaks in quotes. -/
def unbroken (state : MediaState) : List Char :=
  if state.isBroken then state.piece.reverse.filter fun c => c ≠ '\r' && c ≠ '\n'
  else state.piece.reverse

def endValue (state : MediaState) : MediaState :=
  if state.parameter.isEmpty || (state.piece.isEmpty && state.value?.isNone) then state
  else
    let spelled := state.value?.getD [] ++ mended state.unbroken
    let text :=
      if state.isEncoded then ((percentDecoded? spelled).map mended).getD spelled else spelled
    let cleared :=
      { state.dropPiece with
        isBroken := state.isBroken && state.piece.isEmpty
        parameter := [], isStarred := false, isEncoded := false, hasCharset := false, number := 0
        value? := none }
    if state.number = 0 then
      { cleared with parameters := state.parameters ++ [(state.parameter, text)] }
    else
      { cleared with
        continuations := state.continuations ++ [⟨state.parameter, state.number, text⟩] }

/-- Whatever is being read is over here. -/
def endPiece (state : MediaState) : MediaState :=
  match state.place with
  | .type | .subtype | .name => state.endWord
  | .value | .quote => state.endValue
  | .lineBreak | .comment => state

/-- The piece is part of a value that goes on. Outside of quotes a space parts them. -/
def extendByPiece (state : MediaState) : MediaState :=
  if state.piece.isEmpty then state
  else
    let piece := state.piece.reverse
    (state.extendValue (if state.place = .quote then piece else piece ++ [' '])).dropPiece

/-- A backslash in a value, unless another stands before it. -/
def escape (state : MediaState) : MediaState :=
  let whole :=
    if state.place = .quote && !state.piece.isEmpty then
      { state with piece := state.gap.drop 1 ++ state.piece }
    else state
  { whole.extendByPiece with isEscaped := true }

/-- An apostrophe in an encoded value. The piece before it is the character set, then the language;
after those it is part of the value. -/
def endTag (state : MediaState) : MediaState :=
  let language := state.parameter ++ "-language".toList
  if state.piece.isEmpty then state
  else if !state.hasCharset then { state.dropPiece with hasCharset := true }
  else if state.parameters.any fun parameter => parameter.1 = language then
    (state.extendValue ('\'' :: state.piece.reverse)).dropPiece
  else
    { state.dropPiece with parameters := state.parameters ++ [(language, state.piece.reverse)] }

def star (state : MediaState) : MediaState :=
  if !state.isStarred then { state.endWord with isStarred := !state.piece.isEmpty }
  else if !state.isEncoded then { state.endNumber with isEncoded := true }
  else state.dropPiece

/-- The equals sign after a name. -/
def beginValue (state : MediaState) : MediaState :=
  if !state.isStarred then
    if state.piece.isEmpty then state else { state.endWord with place := .value }
  else if !state.isEncoded then
    { state.endNumber with isEncoded := state.piece.isEmpty, place := .value }
  else { state.dropPiece with place := .value }

def leaveComment (state : MediaState) : MediaState :=
  match state.around with
  | [] => state.dropPiece
  | place :: around => { state.dropPiece with place, around }

/-- A line break outside of quotes. It leaves every comment. -/
def breakLine (state : MediaState) : MediaState :=
  { state.endPiece with
    place := if state.place = .type then .type else .name, around := [], isStart := true }

/-- A character outside of comments and quotes. -/
def readPlain (state : MediaState) (c : Char) : MediaState :=
  let isValue := state.place = .value
  if c = ' ' || c = '\t' then { state with isStart := true }
  else if c = '\n' then state.breakLine
  else if c = '/' && state.place = .type then { state.endWord with place := .subtype }
  else if c = ';' then
    if isValue && state.isEscaped then { state with isEscaped := false }
    else { state.endPiece with place := .name }
  else if c = '*' && state.place = .name then state.star
  else if c = '=' && state.place = .name then state.beginValue
  else if c = '"' then if isValue then { state with place := .quote, isStart := true } else state
  else if c = '\\' && !isValue then state
  else if c = '\\' && !state.isEscaped then state.escape
  else if c = '\'' && isValue && state.isEncoded && !state.isEscaped then state.endTag
  else if c = '(' then
    if state.isEscaped then { state with isEscaped := false }
    else { state.endPiece with place := .comment, around := state.place :: state.around }
  else if c = '\r' then state
  else state.push c

def readQuoted (state : MediaState) (c : Char) : MediaState :=
  if c = ' ' || c = '\t' then { state.keep c with isStart := true }
  else if c = '\n' then { state with place := .lineBreak, isBroken := true }
  else if c = '"' && !state.isEscaped then { state.endValue with place := .name }
  else if c = '\\' && !state.isEscaped then state.escape
  else if c = '\'' && state.isEncoded && !state.isEscaped then state.endTag
  else if c = '\r' then state
  else state.push c

/-- The text of a comment is read as a piece, which its end drops. -/
def readComment (state : MediaState) (c : Char) : MediaState :=
  if c = '(' then { state with around := .comment :: state.around }
  else if c = ')' then state.leaveComment
  else if c = '\n' then state.breakLine
  else if c = ' ' || c = '\t' || c = '\r' || c = '"' then state
  else state.push c

def read (state : MediaState) (c : Char) : MediaState :=
  match state.place with
  | .comment => (state.wait c).readComment c
  | .quote => (state.wait c).readQuoted c
  | .lineBreak => { state.wait c with place := .quote }
  | _ => (state.wait c).readPlain c

def mayBeginWord (state : MediaState) : Bool :=
  (state.place = .value || state.place = .quote) && state.isStart

def word (state : MediaState) (octets : List Char) : MediaState :=
  state.extendByPiece.extendValue octets

/-- A piece goes to the end of the value that it continues, or else begins one. -/
def continued (parameters : List (List Char × List Char)) (piece : Continuation) :
    List (List Char × List Char) :=
  match parameters with
  | [] => [(piece.name, piece.text)]
  | (name, text) :: parameters =>
    if name = piece.name then (name, text ++ piece.text) :: parameters
    else (name, text) :: continued parameters piece

/-- Pieces come in the order of their numbers, and those of one number in the order of their
texts. -/
def comesBefore (one two : Continuation) : Bool :=
  one.number < two.number ||
    (one.number = two.number && !(String.ofList two.text < String.ofList one.text))

def allParameters (state : MediaState) : List (List Char × List Char) :=
  (state.continuations.mergeSort comesBefore).foldl continued state.parameters

end MediaState

/-- The media type in a header. The last line break belongs to no part. -/
def MediaType.ofText? (header : List Char) : Option MediaType :=
  let text := if header.getLast? = some '\n' then header.dropLast else header
  let state := foldWords MediaState.read MediaState.mayBeginWord MediaState.word .initial 0 text
  let state := state.endPiece
  if state.type.isEmpty then none else some ⟨state.type, state.subtype, state.allParameters⟩

def MediaType.parameter? (media : MediaType) (name : String) : Option (List Char) :=
  media.parameters.lookup name.toList

def MediaType.isOf (media : MediaType) (type : String) : Bool := media.type == type.toList

end Whereabouts.Letter
