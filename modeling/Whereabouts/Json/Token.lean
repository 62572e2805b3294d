import Whereabouts.Json.Value
/-!
# JSON tokens

A text is read one character at a time. Between tokens there may be spaces, tabs and line breaks; a
word is a longest run of letters, digits, signs and points, and has to be a number or one of three
names; a string runs to its closing quote and holds no control character.
-/
namespace Whereabouts.Json

open Whereabouts.Text

inductive Token where
  | openObject
  | closeObject
  | openArray
  | closeArray
  | comma
  | colon
  /-- A value that is no container. -/
  | atom (value : Json)
deriving Repr

/-! ### Numbers -/

/-- A sign and digits; without digits there is no exponent. -/
def exponentOf? (word : List Char) : Option Int :=
  let (negative, run) : Bool × List Char :=
    match word with
    | '-' :: run => (true, run)
    | '+' :: run => (false, run)
    | run => (false, run)
  if run.isEmpty || !run.all isDigit then none
  else some (if negative then -(value run : Int) else value run)

/-- A point and digits, then perhaps an exponent; `whole` holds the digits before. -/
def scaled? (negative : Bool) (whole word : List Char) : Option Numeral :=
  let (fraction?, rest) : Option (List Char) × List Char :=
    match word with
    | '.' :: rest => (some (rest.takeWhile isDigit), rest.dropWhile isDigit)
    | rest => (none, rest)
  let fraction := fraction?.getD []
  if fraction? = some [] then none
  else
    let numeral (exponent : Int) (isPlain : Bool) : Numeral :=
      ⟨negative, value (whole ++ fraction), exponent - fraction.length, isPlain⟩
    match rest with
    | [] => some (numeral 0 fraction?.isNone)
    | c :: rest =>
      if c = 'e' || c = 'E' then (exponentOf? rest).map fun exponent => numeral exponent false
      else none

/-- Digits without a leading zero, with what may go before and after them. -/
def numeral? (word : List Char) : Option Numeral :=
  let (negative, word) : Bool × List Char :=
    match word with
    | '-' :: word => (true, word)
    | word => (false, word)
  let whole := word.takeWhile isDigit
  if whole.isEmpty || (whole.head? = some '0' && 1 < whole.length) then none
  else scaled? negative whole (word.dropWhile isDigit)

/-! ### Words -/

def isWordChar (c : Char) : Bool := c.isAlphanum || c == '+' || c == '-' || c == '.'

def ofWord? (word : List Char) : Option Json :=
  if word = "null".toList then some null
  else if word = "true".toList then some (bool true)
  else if word = "false".toList then some (bool false)
  else (numeral? word).map number

/-! ### Strings -/

/-- What a string is spelled with: a character, or half of a surrogate pair. -/
inductive Unit where
  | char (c : Char)
  | half (code : Nat)
deriving DecidableEq

def isHighHalf (code : Nat) : Bool := 0xD800 ≤ code && code < 0xDC00

def isLowHalf (code : Nat) : Bool := 0xDC00 ≤ code && code < 0xE000

/-- The unit of a code in four hexadecimal digits. -/
def unitOf (code : Nat) : Unit :=
  if isHighHalf code || isLowHalf code then .half code else .char (Char.ofNat code)

/-- The text of the units: two halves that follow each other are one character. -/
def joinUnits : List Unit → Option (List Char)
  | [] => some []
  | .char c :: units => (joinUnits units).map (c :: ·)
  | .half high :: .half low :: units =>
    if isHighHalf high && isLowHalf low then
      (joinUnits units).map (Char.ofNat (0x10000 + (high - 0xD800) * 0x400 + (low - 0xDC00)) :: ·)
    else none
  | .half _ :: _ => none

def hexValue? (c : Char) : Option Nat :=
  if isDigit c then some (c.toNat - 48)
  else if 'a' ≤ c && c ≤ 'f' then some (c.toNat - 87)
  else if 'A' ≤ c && c ≤ 'F' then some (c.toNat - 55)
  else none

/-- The character that stands for another after a backslash. -/
def escaped? (c : Char) : Option Char :=
  match c with
  | '"' => some '"'
  | '\\' => some '\\'
  | '/' => some '/'
  | 'b' => some '\x08'
  | 'f' => some '\x0c'
  | 'n' => some '\n'
  | 'r' => some '\r'
  | 't' => some '\t'
  | _ => none

/-! ### Reading a text -/

/-- Where the reading stands. What was read of a token is kept with the last character first. -/
inductive Mode where
  | between
  | word (read : List Char)
  | text (read : List Unit)
  /-- After a backslash. -/
  | escape (read : List Unit)
  /-- Within the four digits of a code. -/
  | code (read : List Unit) (missing code : Nat)

def isSpace (c : Char) : Bool := c == ' ' || c == '\t' || c == '\n' || c == '\r'

/-- One character between tokens. -/
def begin? (c : Char) : Option (List Token × Mode) :=
  if isSpace c then some ([], .between)
  else if isWordChar c then some ([], .word [c])
  else
    match c with
    | '\x7b' => some ([.openObject], .between)
    | '\x7d' => some ([.closeObject], .between)
    | '[' => some ([.openArray], .between)
    | ']' => some ([.closeArray], .between)
    | ',' => some ([.comma], .between)
    | ':' => some ([.colon], .between)
    | '"' => some ([], .text [])
    | _ => none

def readChar? (mode : Mode) (c : Char) : Option (List Token × Mode) :=
  match mode with
  | .between => begin? c
  | .word read =>
    if isWordChar c then some ([], .word (c :: read))
    else do
      let value ← ofWord? read.reverse
      let (tokens, mode) ← begin? c
      some (.atom value :: tokens, mode)
  | .text read =>
    if c = '"' then some ([.atom (.string ((joinUnits read.reverse).map String.ofList))], .between)
    else if c = '\\' then some ([], .escape read)
    else if c.toNat < 0x20 then none
    else some ([], .text (.char c :: read))
  | .escape read =>
    if c = 'u' then some ([], .code read 4 0)
    else (escaped? c).map fun meant => ([], .text (.char meant :: read))
  | .code read missing code => do
    let code := code * 16 + (← hexValue? c)
    if missing ≤ 1 then some ([], .text (unitOf code :: read))
    else some ([], .code read (missing - 1) code)

/-- The tokens still open at the end of the text. -/
def finish? : Mode → Option (List Token)
  | .between => some []
  | .word read => (ofWord? read.reverse).map fun value => [.atom value]
  | _ => none

def tokensFrom? (mode : Mode) : (text : List Char) → Option (List Token)
  | [] => finish? mode
  | c :: text => do
    let (tokens, mode) ← readChar? mode c
    let more ← tokensFrom? mode text
    some (tokens ++ more)

def tokens? (text : List Char) : Option (List Token) := tokensFrom? .between text

end Whereabouts.Json
