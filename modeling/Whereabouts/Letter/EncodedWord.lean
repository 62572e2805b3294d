import Whereabouts.Letter.Transfer
import Whereabouts.Letter.Utf8
/-!
# Encoded words

A word of a header can be encoded: after an equals sign stand a character set, the letter of an
encoding and the content, with question marks before each and after the last, and one more equals
sign. The content is Base64 without hyphens, or is quoted: an equals sign stands before two
hexadecimal digits and an underline for a space. A word may go on in the next line. `foldWords`
reads a header character by character and such words as a whole.
-/
namespace Whereabouts.Letter

open Whereabouts.Text

/-- The octets of a quoted content, and the text after its end. An equals sign without digits counts
for nothing at the end and spoils the content elsewhere. -/
def quotedWord? (state : QuotedState) (isFolded : Bool) :
    (text : List Char) → Option (List Char × List Char)
  | [] => none
  | c :: text =>
    if isFolded && (c == ' ' || c == '\t') then quotedWord? state true text
    else if c = '?' && text.head? = some '=' then some ([], text.drop 1)
    else if c = '\n' then quotedWord? state true text
    else if c = '\r' then quotedWord? state false text
    else if c = '?' || c = '_' then
      (quotedWord? state false text).map fun word =>
        ((if c = '?' then '?' else ' ') :: word.1, word.2)
    else
      match state with
      | .plain =>
        if c = '=' then quotedWord? .equals false text
        else (quotedWord? .plain false text).map fun word => (c :: word.1, word.2)
      | .equals =>
        if (hexDigitValue? c).isSome then quotedWord? (.digit c c) false text else none
      | .digit high _ =>
        match hexDigitValue? high, hexDigitValue? c with
        | some high, some low =>
          (quotedWord? .plain false text).map fun word =>
            (Char.ofNat (high * 16 + low) :: word.1, word.2)
        | _, _ => none

/-- The octets of a content in Base64, and the text after its end. -/
def base64Word? (text : List Char) : Option (List Char × List Char) := do
  let (content, after) ← splitAt? (· == '?') text
  if content.contains '-' || after.head? ≠ some '=' then none
  (decodeBase64 [] false content).map fun octets => (octets, after.drop 1)

/-- The name of a character set has at least two characters before the star that its language
follows. -/
def isCharset (name : List Char) : Bool :=
  match name with
  | _ :: second :: _ => second ≠ '*' && !name.contains '\n'
  | _ => false

/-- The octets of the encoded word that goes on after an equals sign, and the text after it. -/
def encodedWord? (text : List Char) : Option (List Char × List Char) := do
  let (charset, text) ← (afterPrefix? ['?'] text).bind (splitAt? (· == '?'))
  if !isCharset charset then none
  match text with
  | encoding :: '?' :: content =>
    if encoding.toLower = 'q' then quotedWord? .plain false content
    else if encoding.toLower = 'b' then base64Word? content
    else none
  | _ => none

/-- Reads a header; `passed` counts the characters of an encoded word still to be passed over. -/
def foldWords {State : Type} (read : State → Char → State) (mayBegin : State → Bool)
    (readWord : State → List Char → State) (state : State) :
    (passed : Nat) → (text : List Char) → State
  | _, [] => state
  | passed + 1, _ :: text => foldWords read mayBegin readWord state passed text
  | 0, c :: text =>
    match if c = '=' && mayBegin state then encodedWord? text else none with
    | some (octets, rest) =>
      foldWords read mayBegin readWord (readWord state octets) (text.length - rest.length) text
    | none => foldWords read mayBegin readWord (read state c) 0 text

example : encodedWord? "?utf-8*ja?Q?a_=3D=?= b".toList = some ("a =".toList, " b".toList) := by
  decide
example : encodedWord? "?utf-8?b?YQ\n ==?=".toList = some (['a'], []) := by decide

end Whereabouts.Letter
