import Whereabouts.Text.Blank
import Whereabouts.Text.Find
import Whereabouts.Text.LowerCase
/-!
# Mail addresses

People are known by lower-case mail addresses. An address is found in running text as the first
`@` with an address character on each side, taken with all address characters around it. An account
is a bare name; the organisation's domain completes it to an address.
-/
namespace Whereabouts.Address

open Whereabouts.Text

def isAccountChar (c : Char) : Bool :=
  ('a' ≤ c && c ≤ 'z') || ('A' ≤ c && c ≤ 'Z') || ('0' ≤ c && c ≤ '9') || c == '-'

def isAddressChar (c : Char) : Bool := isAccountChar c || c == '_' || c == '.'

/-! ### Finding -/

/-- The address at the first `@` between two address characters. The run holds the address
characters read since the last other character, nearest first. -/
def scanFrom (run : List Char) : (text : List Char) → Option (List Char)
  | [] => none
  | c :: text =>
    if isAddressChar c then scanFrom (c :: run) text
    else if c = '@' ∧ run ≠ [] ∧ text.takeWhile isAddressChar ≠ [] then
      some (run.reverse ++ '@' :: text.takeWhile isAddressChar)
    else scanFrom [] text

/-- The first address in the text, in lower case. -/
def scan? (text : List Char) : Option (List Char) := (scanFrom [] text).map fun found => lower found

/-- The first account in square brackets. -/
def scanAccount? : (text : List Char) → Option (List Char)
  | [] => none
  | c :: text =>
    let name := text.takeWhile isAccountChar
    if c = '[' ∧ name ≠ [] ∧ startsWith [']'] (text.drop name.length) then some name
    else scanAccount? text

def find? (text : String) : Option String := (scan? text.toList).map String.ofList

def findAccount? (text : String) : Option String := (scanAccount? text.toList).map String.ofList

/-! ### Completing -/

/-- The address a name stands for: in lower case, and with the domain if it has none. A blank name
stands for nobody. -/
def complete? (domain name : String) : Option String :=
  match trim name.toList with
  | [] => none
  | text =>
    let small := lower text
    some (String.ofList (if '@' ∈ small then small else small ++ '@' :: domain.toList))

/-- The part before the `@`; all of a text that has none. -/
def localPart (address : String) : String :=
  match splitAt? (· == '@') address.toList with
  | some (before, _) => String.ofList before
  | none => address

example : find? "Alice <Alice.S@Example.COM>" = some "alice.s@example.com" := by decide
example : findAccount? "<td>[a_b][tanaka-t]" = some "tanaka-t" := by decide

end Whereabouts.Address
