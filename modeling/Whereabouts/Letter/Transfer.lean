import Whereabouts.Base64
import Whereabouts.Letter.Boundary
/-!
# Transfer encodings

How the octets of a text are written in a letter. Base64 may be broken by blanks, line breaks and
single hyphens anywhere, and an unfinished group at the end is dropped. In quoted-printable an
equals sign stands before two hexadecimal digits or before a line break that does not count; blanks
before any other line break do not count either, and once a carriage return was seen every line
break has one. An equals sign before anything but digits stands for itself. A text that is ended by
a mark is decoded with the first hyphen of the mark, which is then taken away again.
-/
namespace Whereabouts.Letter

inductive Transfer where
  | plain
  | base64
  | quotedPrintable
deriving DecidableEq

/-! ### Base64 -/

def groupValue? (c : Char) : Option Nat :=
  if c = '+' then some 62
  else if c = '/' then some 63
  else if c = '-' || c = '_' then none
  else Base64.symbolValue? c

/-- The octets of a group that padding ends. -/
def paddedOctets (group : List Nat) : List Char :=
  match group with
  | [p] => [Char.ofNat (p * 4)]
  | [p, q] => [Char.ofNat (p * 4 + q / 16)]
  | [p, q, r] => [Char.ofNat (p * 4 + q / 16), Char.ofNat (q % 16 * 16 + r / 4)]
  | _ => []

/-- The group holds the values of up to three characters; `isDashed` tells of a hyphen just
before. -/
def decodeBase64 (group : List Nat) (isDashed : Bool) : (text : List Char) → Option (List Char)
  | [] => some []
  | c :: text =>
    match groupValue? c with
    | some s =>
      match group with
      | [p, q, r] =>
        (decodeBase64 [] false text).map fun octets =>
          Char.ofNat (p * 4 + q / 16) :: Char.ofNat (q % 16 * 16 + r / 4) ::
            Char.ofNat (r % 4 * 64 + s) :: octets
      | group => decodeBase64 (group ++ [s]) false text
    | none =>
      if c = '=' then (decodeBase64 [] false text).map (paddedOctets group ++ ·)
      else if c = ' ' || c = '\t' || c = '\r' || c = '\n' then decodeBase64 group false text
      else if c = '-' && !isDashed then decodeBase64 group true text
      else none

/-! ### Quoted-printable -/

def hexDigitValue? (c : Char) : Option Nat :=
  if '0' ≤ c && c ≤ '9' then some (c.toNat - 48)
  else if 'a' ≤ c && c ≤ 'f' then some (c.toNat - 87)
  else if 'A' ≤ c && c ≤ 'F' then some (c.toNat - 55)
  else none

inductive QuotedState where
  | plain
  /-- After an equals sign. -/
  | equals
  /-- After an equals sign and the digit `high`; `before` is the last character read. -/
  | digit (high before : Char)

def isGapBlank (c : Char) : Bool := c == ' ' || c == '\t' || c == '\x0c'

/-- The octets of an equals sign, the digit `high` and the character `low`. If that is no digit, the
equals sign stands for itself and takes the character before `low` with it, which is the digit
unless a line break came in between. -/
def quotedOctets (high before low : Char) : List Char :=
  match hexDigitValue? high, hexDigitValue? low with
  | some high, some low => [Char.ofNat (high * 16 + low)]
  | _, _ => ['=', before, low]

/-- A carriage return counts for nothing but as the character before another. -/
def QuotedState.passReturn : QuotedState → QuotedState
  | .digit high _ => .digit high '\r'
  | state => state

/-- The blanks in `gap` count only if the line goes on. Two equals signs that follow each other
spoil the text. -/
def decodeQuoted (state : QuotedState) (lineBreak gap : List Char) :
    (text : List Char) → Option (List Char)
  | [] => some gap
  | c :: text =>
    if c = '\r' then decodeQuoted state.passReturn ['\r', '\n'] gap text
    else
      match state with
      | .plain =>
        if c = '=' then decodeQuoted .equals lineBreak gap text
        else if c = '\n' then (decodeQuoted .plain lineBreak [] text).map (lineBreak ++ ·)
        else if isGapBlank c then decodeQuoted .plain lineBreak (gap ++ [c]) text
        else (decodeQuoted .plain lineBreak [] text).map (gap ++ c :: ·)
      | .equals =>
        if c = '=' then none
        else if c = '\n' then (decodeQuoted .plain lineBreak [] text).map (gap ++ ·)
        else if (hexDigitValue? c).isSome then decodeQuoted (.digit c c) lineBreak gap text
        else if isGapBlank c then decodeQuoted .equals lineBreak gap text
        else (decodeQuoted .plain lineBreak [] text).map (gap ++ '=' :: c :: ·)
      | .digit high before =>
        if c = '=' then none
        else if c = '\n' then
          (decodeQuoted (.digit high '\n') lineBreak [] text).map (lineBreak ++ ·)
        else (decodeQuoted .plain lineBreak [] text).map (gap ++ quotedOctets high before c ++ ·)

/-! ### All encodings -/

/-- The encoding that a header names; without a known name the text is as it stands. -/
def Transfer.named (value : List Char) : Transfer :=
  if value = "base64".toList then .base64
  else if value = "quoted-printable".toList then .quotedPrintable
  else .plain

/-- How many octets the hyphen of a mark takes with it: those of a line break, if the mark begins a
line. -/
def markSize (text : List Char) : Nat :=
  if text.getLast? ≠ some '\n' then 1 else if text.contains '\r' then 3 else 2

/-- The octets without those that a mark brought, if there are as many. -/
def dropMark (text octets : List Char) : List Char :=
  if octets.length < markSize text then octets else octets.take (octets.length - markSize text)

/-- The octets of a text that a mark may end, unless it is broken. -/
def Transfer.decode? (transfer : Transfer) (isMarked : Bool) (text : List Char) :
    Option (List Char) :=
  let dashed := if isMarked then text ++ ['-'] else text
  match transfer with
  | .plain => some (if isMarked then dropBreak text else text)
  | .base64 => decodeBase64 [] false dashed
  | .quotedPrintable =>
    (decodeQuoted .plain ['\n'] [] dashed).map fun octets =>
      if isMarked then dropMark text octets else octets

example : Transfer.quotedPrintable.decode? false "a=41  \r\nb=x =\nc\n".toList =
    some "aA\r\nb=x c\r\n".toList := by
  decide
example : Transfer.base64.decode? false "YWJj--".toList = none := by decide

end Whereabouts.Letter
