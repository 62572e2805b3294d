import Mathlib.Data.List.Basic
import Whereabouts.Base64
import Whereabouts.Proofs.Text.Blank
/-!
# Base64 back and forth

Octets are read back from their Base64 text. A group of characters holds the bits of three octets,
and each octet is put together again from the two characters that share it.
-/
namespace Whereabouts.Base64

open Whereabouts.Text

private theorem symbolValue?_symbol {n : Nat} (small : n < 64) :
    symbolValue? (symbol n) = some n := by
  have all : ∀ n < 64, symbolValue? (symbol n) = some n := by decide
  exact all n small

private theorem symbol_ne_padding {n : Nat} (small : n < 64) : symbol n ≠ '=' := by
  have all : ∀ n < 64, symbol n ≠ '=' := by decide
  exact all n small

private theorem isBlank_symbol {n : Nat} (small : n < 64) : isBlank (symbol n) = false := by
  have all : ∀ n < 64, isBlank (symbol n) = false := by decide
  exact all n small

/-! ### Octets of a group -/

private theorem firstOctet_symbols (a : UInt8) {low : Nat} (small : low < 16) :
    firstOctet (a.toNat / 4) (a.toNat % 4 * 16 + low) = a := by
  have same : a.toNat / 4 * 4 + (a.toNat % 4 * 16 + low) / 16 = a.toNat := by omega
  rw [firstOctet, same, UInt8.ofNat_toNat]

private theorem secondOctet_symbols (b : UInt8) (high : Nat) {low : Nat} (small : low < 4) :
    secondOctet (high * 16 + b.toNat / 16) (b.toNat % 16 * 4 + low) = b := by
  have bound := b.toNat_lt
  have same : (high * 16 + b.toNat / 16) % 16 * 16 + (b.toNat % 16 * 4 + low) / 4 = b.toNat := by
    omega
  rw [secondOctet, same, UInt8.ofNat_toNat]

private theorem thirdOctet_symbols (c : UInt8) (high : Nat) :
    thirdOctet (high * 4 + c.toNat / 64) (c.toNat % 64) = c := by
  have bound := c.toNat_lt
  have same : (high * 4 + c.toNat / 64) % 4 * 64 + c.toNat % 64 = c.toNat := by omega
  rw [thirdOctet, same, UInt8.ofNat_toNat]

/-! ### Texts -/

/-- Only the last group may have padding. -/
theorem decode?_group {a b c d : Char} (noPadding : d ≠ '=') (text : List Char) :
    decode? (a :: b :: c :: d :: text) =
      (symbolValue? a).bind fun p => (symbolValue? b).bind fun q => (symbolValue? c).bind fun r =>
        (symbolValue? d).bind fun s => (decode? text).map fun rest =>
          firstOctet p q :: secondOctet q r :: thirdOctet r s :: rest := by
  rw [decode?]
  · simp only [Option.map_eq_bind]
    rfl
  · exact fun _ same _ => noPadding same
  · exact fun same _ => noPadding same

theorem decode?_encode (octets : List UInt8) : decode? (encode octets) = some octets := by
  -- The cases are those of the encoder: nothing, one octet, two octets, or a full group.
  induction octets using encode.induct with
  | case1 => rfl
  | case2 a =>
    have bound := a.toNat_lt
    have first := symbolValue?_symbol (show a.toNat / 4 < 64 by omega)
    have second := symbolValue?_symbol (show a.toNat % 4 * 16 < 64 by omega)
    have octet := firstOctet_symbols a (show 0 < 16 by decide)
    rw [Nat.add_zero] at octet
    simp [encode, decode?, first, second, octet]
  | case3 a b =>
    have bound := a.toNat_lt
    have bound' := b.toNat_lt
    have first := symbolValue?_symbol (show a.toNat / 4 < 64 by omega)
    have second := symbolValue?_symbol (show a.toNat % 4 * 16 + b.toNat / 16 < 64 by omega)
    have third := symbolValue?_symbol (show b.toNat % 16 * 4 < 64 by omega)
    have octet := firstOctet_symbols a (show b.toNat / 16 < 16 by omega)
    have octet' := secondOctet_symbols b (a.toNat % 4) (show 0 < 4 by decide)
    rw [Nat.add_zero] at octet'
    rw [encode, decode?, first, second, third]
    · simp [octet, octet']
    · exact symbol_ne_padding (by omega)
  | case4 a b c octets ih =>
    have bound := a.toNat_lt
    have bound' := b.toNat_lt
    have bound'' := c.toNat_lt
    have first := symbolValue?_symbol (show a.toNat / 4 < 64 by omega)
    have second := symbolValue?_symbol (show a.toNat % 4 * 16 + b.toNat / 16 < 64 by omega)
    have third := symbolValue?_symbol (show b.toNat % 16 * 4 + c.toNat / 64 < 64 by omega)
    have fourth := symbolValue?_symbol (show c.toNat % 64 < 64 by omega)
    have noPadding := symbol_ne_padding (show c.toNat % 64 < 64 by omega)
    -- Each octet comes back from the two characters that share its bits.
    rw [encode, decode?_group noPadding, first, second, third, fourth, ih]
    simp only [Option.bind_some, Option.map_some,
      firstOctet_symbols a (show b.toNat / 16 < 16 by omega),
      secondOctet_symbols b (a.toNat % 4) (show c.toNat / 64 < 4 by omega),
      thirdOctet_symbols c (b.toNat % 16)]

/-- A text in Base64 begins and ends with no blank, since it has none. -/
private theorem isBlank_encode (octets : List UInt8) : ∀ c ∈ encode octets, isBlank c = false := by
  have padding : isBlank '=' = false := by decide
  induction octets using encode.induct with
  | case1 => simp [encode]
  | case2 a =>
    have bound := a.toNat_lt
    simp only [encode, List.forall_mem_cons]
    exact ⟨isBlank_symbol (by omega), isBlank_symbol (by omega), padding, padding, by simp⟩
  | case3 a b =>
    have bound := a.toNat_lt
    have bound' := b.toNat_lt
    simp only [encode, List.forall_mem_cons]
    exact ⟨isBlank_symbol (by omega), isBlank_symbol (by omega), isBlank_symbol (by omega), padding,
      by simp⟩
  | case4 a b c octets ih =>
    have bound := a.toNat_lt
    have bound' := b.toNat_lt
    have bound'' := c.toNat_lt
    simp only [encode, List.forall_mem_cons]
    exact ⟨isBlank_symbol (by omega), isBlank_symbol (by omega), isBlank_symbol (by omega),
      isBlank_symbol (by omega), ih⟩

theorem trim_encode (octets : List UInt8) : trim (encode octets) = encode octets :=
  trimWhile_of_shows (isBlank_encode octets)

end Whereabouts.Base64
