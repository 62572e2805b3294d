/-!
# Lenient UTF-8

A letter is read as octets, each taken as the character with that code. Its texts are UTF-8, read
leniently: where octets begin no character, or break one off, a replacement character stands for as
many of them as could have begun one.
-/
namespace Whereabouts.Letter

/-- A character that is not complete: the bits so far, how many octets are missing, and between
which bounds the next one has to be. -/
structure Begun where
  bits : Nat
  missing : Nat
  low : Nat
  high : Nat

def replacement : Char := '\uFFFD'

/-- What the first octet of a longer character begins. -/
def begin? (octet : Nat) : Option Begun :=
  if 0xC2 ≤ octet && octet ≤ 0xDF then some ⟨octet - 0xC0, 1, 0x80, 0xBF⟩
  else if octet = 0xE0 then some ⟨0, 2, 0xA0, 0xBF⟩
  else if octet = 0xED then some ⟨0xD, 2, 0x80, 0x9F⟩
  else if 0xE1 ≤ octet && octet ≤ 0xEF then some ⟨octet - 0xE0, 2, 0x80, 0xBF⟩
  else if octet = 0xF0 then some ⟨0, 3, 0x90, 0xBF⟩
  else if octet = 0xF4 then some ⟨4, 3, 0x80, 0x8F⟩
  else if 0xF1 ≤ octet && octet ≤ 0xF3 then some ⟨octet - 0xF0, 3, 0x80, 0xBF⟩
  else none

/-- An octet between characters: the characters it completes, and what it begins. -/
def fresh (octet : Nat) : List Char × Option Begun :=
  if octet < 0x80 then ([Char.ofNat octet], none)
  else
    match begin? octet with
    | some begun => ([], some begun)
    | none => ([replacement], none)

def readOctet (begun? : Option Begun) (octet : Nat) : List Char × Option Begun :=
  match begun? with
  | none => fresh octet
  | some begun =>
    if begun.low ≤ octet && octet ≤ begun.high then
      let bits := begun.bits * 64 + (octet - 0x80)
      if begun.missing ≤ 1 then ([Char.ofNat bits], none)
      else ([], some ⟨bits, begun.missing - 1, 0x80, 0xBF⟩)
    else
      let (characters, next) := fresh octet
      (replacement :: characters, next)

def decodeFrom (begun? : Option Begun) : (octets : List Char) → List Char
  | [] => if begun?.isSome then [replacement] else []
  | octet :: octets =>
    let (characters, next) := readOctet begun? octet.toNat
    characters ++ decodeFrom next octets

def decodeUtf8 (octets : List Char) : List Char := decodeFrom none octets

/-- Whether the octets are UTF-8 throughout. -/
def isUtf8 (octets : List Char) : Bool :=
  (String.fromUTF8? (ByteArray.mk (octets.map fun octet => UInt8.ofNat octet.toNat).toArray)).isSome

/-- The octets of a file. -/
def octetsOf (content : ByteArray) : List Char :=
  content.toList.map fun octet => Char.ofNat octet.toNat

/-- The octets of a text. -/
def encodeUtf8 (text : List Char) : List Char := octetsOf (String.ofList text).toUTF8

/-- The octets that spell what these are read as. -/
def mended (octets : List Char) : List Char := encodeUtf8 (decodeUtf8 octets)

example : decodeUtf8 ['a', '\xe9', '\x96', '\x8b', '\xe9', '\x96', 'b', '\xff'] =
    "a開\uFFFDb\uFFFD".toList := by
  decide

end Whereabouts.Letter
