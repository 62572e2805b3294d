import Whereabouts.Text.Lines
import Whereabouts.Json.Reader
import Whereabouts.Settings.Form
/-!
# Settings files

A settings file has a line for each setting: its name, an equals sign and its value, a text in
quotes or a number. A hash begins a comment. Variables of the environment come before the file; in
them every value is written without quotes.
-/
namespace Whereabouts.Settings

open Whereabouts.Text

/-! ### Lines -/

/-- Whether nothing but blanks and a comment is left of a line. -/
def isSpent (text : List Char) : Bool :=
  match trimStart text with
  | [] => true
  | c :: _ => c == '#'

/-- The text up to the quote that ends it, and what follows. A backslash keeps the next character
from ending it. -/
def upToQuote? : (text : List Char) → Option (List Char × List Char)
  | [] => none
  | '\\' :: c :: rest => (upToQuote? rest).map fun found => ('\\' :: c :: found.1, found.2)
  | c :: rest =>
    if c = '"' then some ([], rest)
    else (upToQuote? rest).map fun found => (c :: found.1, found.2)

/-- A value with perhaps a comment after it. Between apostrophes nothing is escaped. -/
def value? (text : List Char) : Option Json := do
  match trimStart text with
  | '"' :: rest =>
    let (inside, after) ← upToQuote? rest
    if isSpent after then Json.ofText? ('"' :: inside ++ ['"']) else none
  | '\'' :: rest =>
    let (inside, after) ← splitAt? (· == '\'') rest
    if isSpent after then some (.ofText (String.ofList inside)) else none
  | plain => Json.ofText? (plain.takeWhile (· ≠ '#'))

def line? (line : List Char) : Option (String × Json) := do
  let (name, value) ← splitAt? (· == '=') line
  some (String.ofList (trim name), ← value? value)

def linesOf? (text : List Char) : Option (List (String × Json)) :=
  ((lines text).filter fun line => !isSpent line).mapM line?

/-! ### The environment -/

def variableName (name : String) : String := "CHECKIN_" ++ name.toUpper

/-- The settings that are numbers. -/
def numberNames : List String := ["interval_secs", "rollover_hour"]

def override? (read : String → Option String) (name : String) : Option (String × Json) := do
  let value ← read (variableName name)
  if numberNames.contains name then some (name, (Json.ofText? value.toList).getD .null)
  else some (name, .ofText value)

/-- The settings of a file, with the variables that `read` finds in front. -/
def ofFile? (read : String → Option String) (text : String) : Option Settings := do
  let settings ← linesOf? text.toList
  ofFields? (fieldNames.filterMap (override? read) ++ settings)

example : (line? "listen = \"127.0.0.1:80\" # all".toList).map (·.1) = some "listen" := by decide

end Whereabouts.Settings
