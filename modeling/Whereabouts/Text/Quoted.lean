import Whereabouts.Text.Ranges
import Whereabouts.Text.HiddenTable
/-!
# Quoted text

A text is shown in double quotes, on one line and without anything the eye could miss: a quote
and a backslash get a backslash, the four common controls their letters, and every character that
does not show its code point in hexadecimal digits.
-/
namespace Whereabouts.Text

/-- The plain space shows; every other character does if it is in no hidden range. -/
def isHidden (c : Char) : Bool :=
  c.toNat != 0x20 && (c.toNat < 0x20 || inRanges c.toNat hiddenRanges)

def hexDigit (n : Nat) : Char :=
  if n % 16 < 10 then Char.ofNat (48 + n % 16) else Char.ofNat (87 + n % 16)

/-- Lower-case hexadecimal digits without leading zeros. -/
def hexDigits (n : Nat) : List Char :=
  if n < 16 then [hexDigit n] else hexDigits (n / 16) ++ [hexDigit n]

def quotedChar (c : Char) : List Char :=
  match c with
  | '\x00' => ['\\', '0']
  | '\t' => ['\\', 't']
  | '\n' => ['\\', 'n']
  | '\r' => ['\\', 'r']
  | '"' => ['\\', '"']
  | '\\' => ['\\', '\\']
  | _ => if isHidden c then ['\\', 'u', '\x7b'] ++ hexDigits c.toNat ++ ['\x7d'] else [c]

def quoted (text : List Char) : List Char := ['"'] ++ text.flatMap quotedChar ++ ['"']

example : quoted "a'\"\t".toList = "\"a'\\\"\\t\"".toList := by decide

end Whereabouts.Text
