import Whereabouts.Text.Quoted
import Whereabouts.Json.Value
/-!
# Writing JSON

A value is written compactly, or over several lines with two more blanks before each line for each
container around it. Only quotes, backslashes and control characters are escaped. A string that is
no text is written as a half of a surrogate pair, which reads as no text again.
-/
namespace Whereabouts

open Whereabouts.Text

/-- A number without its leading zeros and with its exponent, if it was not written plainly. -/
def Numeral.written (numeral : Numeral) : List Char :=
  let sign := if numeral.negative then ['-'] else []
  let scale :=
    if numeral.isPlain then []
    else 'e' :: (if numeral.exponent < 0 then ['-'] else []) ++ digits numeral.exponent.natAbs
  sign ++ digits numeral.significand ++ scale

namespace Json

def writtenChar (c : Char) : List Char :=
  match c with
  | '"' => ['\\', '"']
  | '\\' => ['\\', '\\']
  | '\x08' => ['\\', 'b']
  | '\x0c' => ['\\', 'f']
  | '\n' => ['\\', 'n']
  | '\r' => ['\\', 'r']
  | '\t' => ['\\', 't']
  | _ =>
    if c.toNat < 0x20 then ['\\', 'u', '0', '0', hexDigit (c.toNat / 16), hexDigit c.toNat] else [c]

def writtenString (text? : Option String) : List Char :=
  match text? with
  | some text => ['"'] ++ text.toList.flatMap writtenChar ++ ['"']
  | none => "\"\\ud800\"".toList

/-! ### On one line -/

mutual

def compact : Json → List Char
  | null => "null".toList
  | bool value => (if value then "true" else "false").toList
  | number numeral => numeral.written
  | string text? => writtenString text?
  | array [] => "[]".toList
  | array (item :: items) => ['['] ++ item.compact ++ compactItems items ++ [']']
  | object [] => ['\x7b', '\x7d']
  | object ((name, value) :: members) =>
    ['\x7b'] ++ writtenString name ++ [':'] ++ value.compact ++ compactMembers members ++ ['\x7d']

/-- The items after the first. -/
def compactItems : List Json → List Char
  | [] => []
  | item :: items => [','] ++ item.compact ++ compactItems items

/-- The members after the first. -/
def compactMembers : List (Option String × Json) → List Char
  | [] => []
  | (name, value) :: members =>
    [','] ++ writtenString name ++ [':'] ++ value.compact ++ compactMembers members

end

/-! ### Over several lines -/

/-- A new line inside so many containers. -/
def newLine (depth : Nat) : List Char := '\n' :: List.replicate (2 * depth) ' '

mutual

/-- The text of a value inside `depth` containers. -/
def prettyAt (depth : Nat) : Json → List Char
  | null => "null".toList
  | bool value => (if value then "true" else "false").toList
  | number numeral => numeral.written
  | string text? => writtenString text?
  | array [] => "[]".toList
  | array (item :: items) =>
    ['['] ++ newLine (depth + 1) ++ item.prettyAt (depth + 1) ++ prettyItems (depth + 1) items ++
      newLine depth ++ [']']
  | object [] => ['\x7b', '\x7d']
  | object ((name, value) :: members) =>
    ['\x7b'] ++ newLine (depth + 1) ++ writtenString name ++ [':', ' '] ++
      value.prettyAt (depth + 1) ++ prettyMembers (depth + 1) members ++ newLine depth ++ ['\x7d']

/-- The items after the first. -/
def prettyItems (depth : Nat) : List Json → List Char
  | [] => []
  | item :: items => [','] ++ newLine depth ++ item.prettyAt depth ++ prettyItems depth items

/-- The members after the first. -/
def prettyMembers (depth : Nat) : List (Option String × Json) → List Char
  | [] => []
  | (name, value) :: members =>
    [','] ++ newLine depth ++ writtenString name ++ [':', ' '] ++ value.prettyAt depth ++
      prettyMembers depth members

end

def pretty (json : Json) : List Char := json.prettyAt 0

end Json

end Whereabouts
