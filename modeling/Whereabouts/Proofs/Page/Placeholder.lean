import Whereabouts.Page.Placeholder
import Whereabouts.Proofs.Text.Find
/-!
# What takes the place of a placeholder

## Main result

`one_value_and_two_agree`: two values go into a source as one value would that has them side by
side, and a missing first value stands for what the placeholder holds. Nothing around the placeholder
changes, and a source without one stays as it is.

## Strategy

1. `StandsIn` says where a placeholder is, without a search: at the first opening, as far as the first
   closing bracket. This is the placeholder that is found (`find?_eq_some`).
2. There is one as soon as some closing bracket stands behind some opening (`opens_iff`).
3. Either way of filling a source is read off the placeholder that stands there.
-/
namespace Whereabouts.Page

open Whereabouts.Text

variable {source : List Char} {found : Placeholder}

/-! ### Where it stands -/

/-- The first opening of the source, and the first closing bracket after it. -/
structure Placeholder.StandsIn (found : Placeholder) (source : List Char) : Prop where
  shape : source = found.before ++ '[' :: found.inside ++ ']' :: found.after
  opens : opening <+: '[' :: found.inside
  first : ∀ before, before ++ opening <+: source → found.before.length ≤ before.length
  closes : ']' ∉ found.inside

/-- A closing bracket stands somewhere after an opening. -/
def Opens (source : List Char) : Prop :=
  ∃ before inside after, source = before ++ opening ++ inside ++ ']' :: after

/-- A beginning without the character ends before it. -/
private theorem prefix_of_append_eq {mark rest inside after : List Char} {c : Char}
    (shape : mark ++ rest = inside ++ c :: after) (without : c ∉ mark) : mark <+: inside := by
  rcases List.append_eq_append_iff.mp shape with ⟨more, rfl, _⟩ | ⟨more, rfl, crossing⟩
  · exact List.prefix_append _ _
  · cases more with
    | nil => rw [List.append_nil]
    | cons c' more =>
      obtain rfl := (List.cons.inj crossing).1
      simp at without

namespace Placeholder

private theorem find?_eq_some : find? source = some found ↔ found.StandsIn source := by
  simp only [find?, Option.bind_eq_bind, Option.bind_eq_some_iff, Option.some.injEq, Prod.exists,
    splitAt?_eq_some, cut?_eq_some]
  constructor
  · rintro ⟨before, _, ⟨rfl, ⟨rest, rfl⟩, first⟩, inside, after, ⟨c, shape, stop, passes⟩, rfl⟩
    obtain rfl : c = ']' := by simpa using stop
    -- The name behind the opening bracket is part of what the placeholder holds.
    have named : "内線".toList <+: inside := prefix_of_append_eq shape (by decide)
    refine ⟨?_, (List.prefix_cons_inj '[').mpr named, first, fun closed => ?_⟩
    · have opened : opening ++ rest = '[' :: (opening ++ rest).drop 1 := rfl
      rw [opened, shape]
      simp
    · simpa using passes ']' closed
  · rintro ⟨rfl, opens, first, closes⟩
    refine ⟨found.before, '[' :: found.inside ++ ']' :: found.after, ⟨?_, ?_, first⟩,
      found.inside, found.after, ⟨']', rfl, by simp, fun c member => ?_⟩, rfl⟩
    · rw [List.append_assoc]
    · exact opens.trans (List.prefix_append _ _)
    · exact beq_eq_false_iff_ne.mpr (ne_of_mem_of_not_mem member closes)

end Placeholder

/-- A closing bracket behind some opening is behind the first one. -/
private theorem closes_behind_first {before rest before' inside after : List Char}
    (cut : cut? opening source = some (before, rest))
    (shape : source = before' ++ opening ++ inside ++ ']' :: after) : ']' ∈ rest.drop 1 := by
  have earlier : before.length ≤ before'.length :=
    length_le_of_cut? cut ⟨inside ++ ']' :: after, by rw [shape]; simp⟩
  have within : before.length + 1 ≤ (before' ++ opening ++ inside).length := by
    have threeLong : opening.length = 3 := rfl
    simp only [List.length_append, threeLong]
    omega
  have behind : rest.drop 1 = source.drop (before.length + 1) := by
    rw [← append_of_cut? cut, ← List.drop_drop, List.drop_left]
  rw [behind, shape, List.drop_append_of_le_length within]
  exact List.mem_append_right _ List.mem_cons_self

/-- There is a placeholder as soon as the source has both brackets in this order. -/
private theorem opens_iff : Opens source ↔ ∃ found : Placeholder, found.StandsIn source := by
  constructor
  · rintro ⟨before, inside, after, shape⟩
    have opened : contains opening source = true :=
      contains_iff.mpr ⟨before, inside ++ ']' :: after, by rw [shape]; simp⟩
    obtain ⟨⟨before', rest⟩, cut⟩ := Option.isSome_iff_exists.mp opened
    have closed := closes_behind_first cut shape
    cases split : splitAt? (· == ']') (rest.drop 1) with
    | none =>
      have passes := splitAt?_eq_none.mp split ']' closed
      simp at passes
    | some parts =>
      refine ⟨⟨before', parts.1, parts.2⟩, Placeholder.find?_eq_some.mp ?_⟩
      simp only [Placeholder.find?, cut, split, Option.bind_eq_bind, Option.bind_some]
  · rintro ⟨found, stands⟩
    -- The opening is the bracket and the beginning of what the placeholder holds.
    obtain ⟨inside, opened⟩ := stands.opens
    exact ⟨found.before, inside, found.after, by rw [stands.shape, ← opened]; simp⟩

theorem standsIn_or_not_opens (source : List Char) :
    (∃ found : Placeholder, found.StandsIn source) ∨ ¬ Opens source := by
  rw [← opens_iff]
  exact Classical.em _

private theorem find?_eq_none_of_not_opens (without : ¬ Opens source) :
    Placeholder.find? source = none := by
  rw [Option.eq_none_iff_forall_ne_some]
  exact fun found find => without (opens_iff.mpr ⟨found, Placeholder.find?_eq_some.mp find⟩)

/-! ### What takes its place -/

/-- What the placeholder of the source holds. -/
def interior (source : List Char) : List Char :=
  match Placeholder.find? source with
  | none => []
  | some found => found.inside

/-- Without a value the placeholder keeps what it holds. -/
theorem Placeholder.StandsIn.embed_eq (stands : found.StandsIn source) (value? : Option (List Char)) :
    embed source value? =
      found.before ++ '[' :: value?.getD found.inside ++ ']' :: found.after := by
  cases value? with
  | none => exact stands.shape
  | some value => simp only [embed, find?_eq_some.mpr stands, Option.getD_some]

theorem Placeholder.StandsIn.embedPair_eq (stands : found.StandsIn source)
    (first? : Option (List Char)) (second : List Char) :
    embedPair source first? second =
      found.before ++ '[' :: first?.getD found.inside ++ "][".toList ++ second ++
        ']' :: found.after := by
  rw [embedPair, find?_eq_some.mpr stands]

private theorem Placeholder.StandsIn.interior_eq (stands : found.StandsIn source) :
    interior source = found.inside := by
  rw [interior, find?_eq_some.mpr stands]

theorem embed_of_not_opens (without : ¬ Opens source) (value? : Option (List Char)) :
    embed source value? = source := by
  cases value? with
  | none => rfl
  | some value => simp only [embed, find?_eq_none_of_not_opens without]

theorem embedPair_of_not_opens (without : ¬ Opens source) (first? : Option (List Char))
    (second : List Char) : embedPair source first? second = source := by
  rw [embedPair, find?_eq_none_of_not_opens without]

private theorem embedPair_eq_embed (source : List Char) (first? : Option (List Char))
    (second : List Char) :
    embedPair source first? second =
      embed source (some (first?.getD (interior source) ++ "][".toList ++ second)) := by
  rcases standsIn_or_not_opens source with ⟨found, stands⟩ | without
  · rw [stands.embedPair_eq, stands.embed_eq, stands.interior_eq, Option.getD_some]
    simp
  · rw [embedPair_of_not_opens without, embed_of_not_opens without]

/-- Two values go into a source as one that has them side by side. They take the place of what the
placeholder holds, and of nothing else. -/
theorem one_value_and_two_agree (source : List Char) :
    (∀ first? second, embedPair source first? second =
      embed source (some (first?.getD (interior source) ++ "][".toList ++ second))) ∧
    (Opens source ↔ ∃ found : Placeholder, found.StandsIn source) ∧
    (∀ found : Placeholder, found.StandsIn source →
      interior source = found.inside ∧
      (∀ value?, embed source value? =
        found.before ++ '[' :: value?.getD found.inside ++ ']' :: found.after) ∧
      (∀ first? second, embedPair source first? second =
        found.before ++ '[' :: first?.getD found.inside ++ "][".toList ++ second ++
          ']' :: found.after) ∧
      embed source (some found.inside) = source) ∧
    (¬ Opens source → (∀ value?, embed source value? = source) ∧
      ∀ first? second, embedPair source first? second = source) := by
  refine ⟨embedPair_eq_embed source, opens_iff, fun found stands => ?_, fun without => ?_⟩
  · refine ⟨stands.interior_eq, stands.embed_eq, stands.embedPair_eq, ?_⟩
    rw [stands.embed_eq, Option.getD_some, ← stands.shape]
  · exact ⟨embed_of_not_opens without, embedPair_of_not_opens without⟩

theorem one_value_and_two_agree_among_brackets :
    Placeholder.StandsIn ⟨"a]b".toList, "内線 [内線 1".toList, "c]".toList⟩
        "a]b[内線 [内線 1]c]".toList ∧
      embedPair "a]b[内線 [内線 1]c]".toList none "n]".toList =
        "a]b[内線 [内線 1][n]]c]".toList ∧
      ¬ Opens "]x[内線".toList ∧ embedPair "]x[内線".toList none "n]".toList = "]x[内線".toList := by
  have stands : Placeholder.StandsIn ⟨"a]b".toList, "内線 [内線 1".toList, "c]".toList⟩
      "a]b[内線 [内線 1]c]".toList := Placeholder.find?_eq_some.mp (by decide)
  have without : ¬ Opens "]x[内線".toList := by
    intro has
    obtain ⟨found, stands⟩ := opens_iff.mp has
    have find : Placeholder.find? "]x[内線".toList = some found := Placeholder.find?_eq_some.mpr stands
    cases find
  have filled := ((one_value_and_two_agree _).2.2.1 _ stands).2.2.1 none "n]".toList
  have untouched := ((one_value_and_two_agree _).2.2.2 without).2 none "n]".toList
  exact ⟨stands, filled.trans (by decide), without, untouched⟩

end Whereabouts.Page
