/-!
# Base64 for file names and addresses

Three octets are written as four characters of an alphabet without slash and plus, and padding
fills the last group. Reading is strict: the padding has to be there, and the bits that no octet
uses have to be zero, so every text that can be read is the written form of what it says.
-/
namespace Whereabouts.Base64

def symbol (n : Nat) : Char :=
  if n < 26 then Char.ofNat (65 + n)
  else if n < 52 then Char.ofNat (71 + n)
  else if n < 62 then Char.ofNat (n - 4)
  else if n = 62 then '-'
  else '_'

def symbolValue? (c : Char) : Option Nat :=
  if 'A' ≤ c && c ≤ 'Z' then some (c.toNat - 65)
  else if 'a' ≤ c && c ≤ 'z' then some (c.toNat - 71)
  else if '0' ≤ c && c ≤ '9' then some (c.toNat + 4)
  else if c = '-' then some 62
  else if c = '_' then some 63
  else none

def encode : (octets : List UInt8) → List Char
  | [] => []
  | [a] => [symbol (a.toNat / 4), symbol (a.toNat % 4 * 16), '=', '=']
  | [a, b] =>
    [symbol (a.toNat / 4), symbol (a.toNat % 4 * 16 + b.toNat / 16), symbol (b.toNat % 16 * 4), '=']
  | a :: b :: c :: octets =>
    symbol (a.toNat / 4) :: symbol (a.toNat % 4 * 16 + b.toNat / 16) ::
      symbol (b.toNat % 16 * 4 + c.toNat / 64) :: symbol (c.toNat % 64) :: encode octets

/-- The first octet of a group. -/
def firstOctet (p q : Nat) : UInt8 := UInt8.ofNat (p * 4 + q / 16)

def secondOctet (q r : Nat) : UInt8 := UInt8.ofNat (q % 16 * 16 + r / 4)

def thirdOctet (r s : Nat) : UInt8 := UInt8.ofNat (r % 4 * 64 + s)

def decode? : (text : List Char) → Option (List UInt8)
  | [] => some []
  | [a, b, '=', '='] => do
    let p ← symbolValue? a
    let q ← symbolValue? b
    if q % 16 = 0 then some [firstOctet p q] else none
  | [a, b, c, '='] => do
    let p ← symbolValue? a
    let q ← symbolValue? b
    let r ← symbolValue? c
    if r % 4 = 0 then some [firstOctet p q, secondOctet q r] else none
  | a :: b :: c :: d :: text => do
    let p ← symbolValue? a
    let q ← symbolValue? b
    let r ← symbolValue? c
    let s ← symbolValue? d
    let rest ← decode? text
    some (firstOctet p q :: secondOctet q r :: thirdOctet r s :: rest)
  | _ => none

example : encode [123, 125] = "e30=".toList := by decide
example : decode? "e31=".toList = none := by decide

end Whereabouts.Base64
