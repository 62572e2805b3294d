import Mathlib.Data.List.Basic
/-!
# Texts as octets

A text is read back from its UTF-8 form, and the order of texts is the order of their octets.

Texts are ordered by code point. Of two characters the larger has the larger UTF-8 form, and it is
larger at an octet that both forms have; so what follows the two characters cannot turn the order
around. Comparing texts and comparing their octets therefore comes to the same.
-/
namespace Whereabouts.Text

/-! ### There and back -/

theorem fromUTF8?_toUTF8 (text : String) : String.fromUTF8? text.toUTF8 = some text := by
  have valid : text.toUTF8.IsValidUTF8 := text.isValidUTF8
  rw [String.fromUTF8?, dif_pos valid]
  rfl

theorem toUTF8_of_fromUTF8? {content : ByteArray} {text : String}
    (read : String.fromUTF8? content = some text) : text.toUTF8 = content := by
  rw [String.fromUTF8?] at read
  split at read
  · cases read
    rfl
  · cases read

theorem toList_loop (content : ByteArray) (start : Nat) (read : List UInt8) :
    ByteArray.toList.loop content start read = read.reverse ++ content.data.toList.drop start := by
  fun_induction ByteArray.toList.loop content start read with
  | case1 start read inside ih =>
    have present : start < content.data.toList.length := by simpa using inside
    have same : content.get! start = content.data.toList[start] := by simp [ByteArray.get!, inside]
    rw [ih, List.drop_eq_getElem_cons present, same]
    simp
  | case2 start read outside =>
    rw [List.drop_eq_nil_of_le (by simpa using Nat.le_of_not_lt outside), List.append_nil]

theorem mk_toList (content : ByteArray) : ByteArray.mk content.toList.toArray = content := by
  rw [ByteArray.toList, toList_loop]
  rfl

/-- The UTF-8 form of a text. -/
def octets (text : String) : List UInt8 := text.toUTF8.data.toList

private theorem octets_eq (text : String) :
    octets text = text.toList.flatMap String.utf8EncodeChar := by
  rw [octets, String.toUTF8_eq_toByteArray, ← String.utf8Encode_toList, List.utf8Encode]
  exact List.toList_data_toByteArray

/-! ### Characters -/

/-- At the first octet in which the two differ, the first has the smaller one. -/
inductive Below : List UInt8 → List UInt8 → Prop
  | here {low high : UInt8} (less : low < high) (rest rest' : List UInt8) :
      Below (low :: rest) (high :: rest')
  | later (octet : UInt8) {one two : List UInt8} (below : Below one two) :
      Below (octet :: one) (octet :: two)

namespace Below

private theorem lt_append {one two : List UInt8} (below : Below one two) (more more' : List UInt8) :
    one ++ more < two ++ more' := by
  induction below with
  | here less rest rest' => exact List.Lex.rel less
  | later octet _ ih => exact List.Lex.cons ih

/-- Octets that are given as numbers: if the first are equal the others decide. -/
private theorem ofNat_cons {low high : Nat} {one two : List UInt8} (le : low ≤ high)
    (small : high < 256) (next : low = high → Below one two) :
    Below (UInt8.ofNat low :: one) (UInt8.ofNat high :: two) := by
  rcases Nat.lt_or_eq_of_le le with less | same
  · refine .here ?_ one two
    rw [UInt8.lt_iff_toNat_lt, UInt8.toNat_ofNat_of_lt' small,
      UInt8.toNat_ofNat_of_lt' (Nat.lt_trans less small)]
    exact less
  · exact same ▸ .later _ (next same)

end Below

private theorem toNat_val_lt (c : Char) : c.val.toNat < 0x110000 := by
  rcases c.valid with low | ⟨_, high⟩
  · exact Nat.lt_trans low (by decide)
  · exact high

/-- A longer form begins with a larger octet than any shorter one. Forms of one length are compared
place by place, and the places are the digits of the code point in the base of 64. -/
private theorem below_utf8EncodeChar {one two : Char} (less : one < two) :
    Below (String.utf8EncodeChar one) (String.utf8EncodeChar two) := by
  have ordered : one.val.toNat < two.val.toNat := less
  have bound := toNat_val_lt two
  unfold String.utf8EncodeChar
  dsimp only
  generalize one.val.toNat = low at *
  generalize two.val.toNat = high at *
  -- One case for each length of the first form, and in it one for each length of the second.
  split
  · split
    · exact .ofNat_cons (by omega) (by omega) fun same => by omega
    · split
      · exact .ofNat_cons (by omega) (by omega) fun same => by omega
      · split <;> exact .ofNat_cons (by omega) (by omega) fun same => by omega
  · rw [if_neg (by omega : ¬ high ≤ 0x7f)]
    split
    · split
      · exact .ofNat_cons (by omega) (by omega) fun _ =>
          .ofNat_cons (by omega) (by omega) fun _ => by omega
      · split <;> exact .ofNat_cons (by omega) (by omega) fun same => by omega
    · rw [if_neg (by omega : ¬ high ≤ 0x7ff)]
      split
      · split
        · exact .ofNat_cons (by omega) (by omega) fun _ =>
            .ofNat_cons (by omega) (by omega) fun _ =>
              .ofNat_cons (by omega) (by omega) fun _ => by omega
        · exact .ofNat_cons (by omega) (by omega) fun same => by omega
      · rw [if_neg (by omega : ¬ high ≤ 0xffff)]
        exact .ofNat_cons (by omega) (by omega) fun _ =>
          .ofNat_cons (by omega) (by omega) fun _ =>
            .ofNat_cons (by omega) (by omega) fun _ =>
              .ofNat_cons (by omega) (by omega) fun _ => by omega

/-! ### Texts -/

private theorem flatMap_lt {one two : List Char} (less : one < two) :
    one.flatMap String.utf8EncodeChar < two.flatMap String.utf8EncodeChar := by
  induction less with
  | nil =>
    rw [List.flatMap_nil, List.flatMap_cons]
    cases form : String.utf8EncodeChar _ with
    | nil => exact absurd form String.utf8EncodeChar_ne_nil
    | cons octet rest => exact List.Lex.nil
  | rel below =>
    rw [List.flatMap_cons, List.flatMap_cons]
    exact (below_utf8EncodeChar below).lt_append _ _
  | cons _ ih =>
    rw [List.flatMap_cons, List.flatMap_cons]
    exact List.append_left_lt ih

/-- A text comes before another exactly if its octets do. -/
theorem lt_iff_octets_lt {one two : String} : one < two ↔ octets one < octets two := by
  have mono {one two : String} (less : one < two) : octets one < octets two := by
    rw [octets_eq, octets_eq]
    exact flatMap_lt less
  -- Both orders are total, so it is enough that one follows from the other.
  refine ⟨mono, fun less => ?_⟩
  by_contra notLess
  by_cases greater : two < one
  · exact List.lt_asymm less (mono greater)
  · have same : one = two := String.le_antisymm (String.not_lt.mp greater) (String.not_lt.mp notLess)
    exact List.lt_irrefl _ (same ▸ less)

end Whereabouts.Text
