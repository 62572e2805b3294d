import Whereabouts.Text.Decimal
/-!
# JSON values

A value is kept as it was written as far as anything can depend on it. A string may spell half of a
surrogate pair and then is no text; it is an error only where the string is wanted. Members of an
object keep their order and may repeat a name. A number is a whole number times a power of ten.
-/
namespace Whereabouts

structure Numeral where
  negative : Bool
  /-- All digits, read as one number. -/
  significand : Nat
  /-- The power of ten that goes with them. -/
  exponent : Int
  /-- Written without a fraction and without an exponent. -/
  isPlain : Bool
deriving DecidableEq, Repr

inductive Json where
  | null
  | bool (value : Bool)
  | number (numeral : Numeral)
  | string (text? : Option String)
  | array (items : List Json)
  | object (members : List (Option String × Json))
deriving Repr

namespace Numeral

/-- The least number too large for a double: it rounds to the power after the largest. -/
def doubleBound : Nat := Nat.pow 2 1024 - Nat.pow 2 970

/-- A power of ten; one for an exponent below zero. -/
def tenTo (exponent : Int) : Nat := Nat.pow 10 exponent.toNat

/-- The number with its binary digits after the first 53 rounded off, to the nearest and a tie to
the even one. -/
def toDouble (n : Nat) : Nat :=
  let unit := Nat.pow 2 (n.log2 - 52)
  let lower := n / unit
  let excess := n % unit
  if 2 * excess < unit || (2 * excess = unit && lower % 2 = 0) then lower * unit
  else (lower + 1) * unit

/-- The number that the leading digits write, as far as it fits into 64 bits, and how many digits
are left; `read` is the number read so far. -/
def leading (read : Nat) : (run : List Char) → Nat × Nat
  | [] => (read, 0)
  | c :: run =>
    let longer := 10 * read + Text.digitValue c
    if longer < Nat.pow 2 64 then leading longer run else (read, run.length + 1)

/-- Whether the number is read as a finite double: the double of its leading digits is multiplied
by the double of a power of ten. -/
def isFinite (numeral : Numeral) : Bool :=
  let (lead, left) := leading 0 (Text.digits numeral.significand)
  let exponent := numeral.exponent + left
  if lead = 0 || exponent ≤ 0 then true
  else if 308 < exponent then false
  else toDouble lead * toDouble (tenTo exponent) < doubleBound

/-- The number, if it is a natural number written plainly and at most `most`. A minus sign spoils
even zero. -/
def natural? (most : Nat) (numeral : Numeral) : Option Nat :=
  if numeral.isPlain && !numeral.negative && numeral.significand ≤ most then
    some numeral.significand
  else none

end Numeral

namespace Json

mutual

/-- How many containers lie within each other. -/
def depth : Json → Nat
  | array items => depthItems items + 1
  | object members => depthMembers members + 1
  | _ => 0

def depthItems : List Json → Nat
  | [] => 0
  | item :: items => max item.depth (depthItems items)

def depthMembers : List (Option String × Json) → Nat
  | [] => 0
  | (_, value) :: members => max value.depth (depthMembers members)

end

mutual

/-- Whether every string in it is a text and every number a finite one. -/
def isSound : Json → Bool
  | number numeral => numeral.isFinite
  | string text? => text?.isSome
  | array items => soundItems items
  | object members => soundMembers members
  | _ => true

def soundItems : List Json → Bool
  | [] => true
  | item :: items => item.isSound && soundItems items

def soundMembers : List (Option String × Json) → Bool
  | [] => true
  | (name?, value) :: members => name?.isSome && value.isSound && soundMembers members

end

end Json

end Whereabouts
