import Mathlib.Data.Bool.AllAny
import Mathlib.Data.List.Infix
import Whereabouts.Page.Escape
import Whereabouts.Proofs.Text.Find
/-!
# Escaped text

Escaped text is a run of plain characters and whole entities. Each character is escaped to such a
run. Giving an entity back takes `amp;` out of a run where an escaped ampersand stands before the
name of a space, and what is left is a run again: no entity begins within another, so a mark is found
only where an entity begins. It follows that escaped text holds no markup, and that every ampersand
in it begins an entity.
-/
namespace Whereabouts.Page

open Whereabouts.Text

/-- The characters that tags and their attributes are made of. -/
def markup : List Char := ['<', '>', '"', '\'']

/-- The markup characters of the text, in their order. -/
def markupOf (text : List Char) : List Char := text.filter fun c => decide (c ∈ markup)

theorem markupOf_append (one two : List Char) :
    markupOf (one ++ two) = markupOf one ++ markupOf two :=
  List.filter_append one two

/-- The entities that escaped text is made of. -/
def entities : List String :=
  ["&amp;", "&lt;", "&gt;", "&quot;", "&#39;", "&nbsp;", "&ensp;", "&emsp;", "&thinsp;"]

/-- A run of plain characters and whole entities. -/
inductive Escaped : List Char → Prop
  | nil : Escaped []
  | plain {c : Char} {rest : List Char} (noMarkup : c ∉ markup) (noAmpersand : c ≠ '&')
      (escaped : Escaped rest) : Escaped (c :: rest)
  | entity {entity : String} {rest : List Char} (member : entity ∈ entities)
      (escaped : Escaped rest) : Escaped (entity.toList ++ rest)

theorem entity_shape : ∀ entity ∈ entities, entity.toList = '&' :: entity.toList.tail ∧
    '&' ∉ entity.toList.tail ∧ markupOf entity.toList = [] := by
  decide

private theorem eq_of_entity_isPrefix : ∀ one ∈ entities, ∀ two ∈ entities,
    one.toList <+: two.toList → one = two := by
  decide

/-- Where text begins with an entity, it begins with no other. -/
theorem eq_of_entity_isPrefix_append {one two : String} (member : one ∈ entities)
    (member' : two ∈ entities) {rest : List Char} (opens : one.toList <+: two.toList ++ rest) :
    one = two := by
  rcases List.prefix_or_prefix_of_prefix opens (List.prefix_append two.toList rest) with
    first | second
  · exact eq_of_entity_isPrefix one member two member' first
  · exact (eq_of_entity_isPrefix two member' one member second).symm

namespace Escaped

theorem append {one two : List Char} (escaped : Escaped one) (escaped' : Escaped two) :
    Escaped (one ++ two) := by
  induction escaped with
  | nil => exact escaped'
  | plain noMarkup noAmpersand _ ih => exact ih.plain noMarkup noAmpersand
  | entity member _ ih =>
    rw [List.append_assoc]
    exact ih.entity member

/-- No entity reaches behind a character other than an ampersand. -/
private theorem behind {before rest : List Char} (escaped : Escaped (before ++ rest))
    (passed : '&' ∉ before) : Escaped rest := by
  induction before with
  | nil => exact escaped
  | cons c before ih =>
    obtain ⟨different, passed⟩ := not_or.mp (mt List.mem_cons.mpr passed)
    generalize shape : c :: before ++ rest = text at escaped
    cases escaped with
    | nil => cases shape
    | plain _ _ escaped =>
      cases shape
      exact ih escaped passed
    | entity member _ =>
      -- An entity would begin with an ampersand.
      rw [(entity_shape _ member).1] at shape
      exact absurd (List.cons.inj shape).1.symm different

end Escaped

/-! ### Single characters -/

/-- The characters that have an entity. -/
def specials : List Char := '&' :: ' ' :: markup

theorem entityOf_special : ∀ c ∈ specials, ∃ entity ∈ entities, entityOf c = entity.toList :=
  List.all_iff_forall_prop.mp (by decide)

theorem entityOf_plain {c : Char} (plain : c ∉ specials) : entityOf c = [c] := by
  unfold entityOf
  split
  all_goals first | rfl | exact absurd (by decide) plain

private theorem escaped_entityOf (c : Char) : Escaped (entityOf c) := by
  by_cases special : c ∈ specials
  · obtain ⟨entity, member, same⟩ := entityOf_special c special
    rw [same, ← List.append_nil entity.toList]
    exact Escaped.nil.entity member
  · rw [entityOf_plain special]
    obtain ⟨noAmpersand, behind⟩ := not_or.mp (mt List.mem_cons.mpr special)
    exact Escaped.nil.plain (mt (List.mem_cons_of_mem ' ') behind) noAmpersand

private theorem escaped_flatMap_entityOf (text : List Char) : Escaped (text.flatMap entityOf) := by
  induction text with
  | nil => exact .nil
  | cons c text ih => exact (escaped_entityOf c).append ih

/-! ### Giving entities back -/

section Replace

variable {mark new : List Char}

private theorem replaceFrom_passed (mark new : List Char) (passed : Nat) (text : List Char) :
    replaceFrom mark new passed text = replaceFrom mark new 0 (text.drop passed) := by
  induction text generalizing passed with
  | nil => cases passed <;> rfl
  | cons c text ih =>
    cases passed with
    | zero => rfl
    | succ passed => exact ih passed

/-- Where a mark begins, the new text takes its place. -/
theorem replaceFrom_mark (nonempty : mark ≠ []) (rest : List Char) :
    replaceFrom mark new 0 (mark ++ rest) = new ++ replaceFrom mark new 0 rest := by
  obtain ⟨first, others, rfl⟩ := List.exists_cons_of_ne_nil nonempty
  have starts : startsWith (first :: others) (first :: (others ++ rest)) = true :=
    startsWith_iff.mpr ⟨rest, rfl⟩
  rw [List.cons_append, replaceFrom, if_pos starts, replaceFrom_passed, List.length_cons,
    Nat.add_sub_cancel, List.drop_left]

/-- A character that no mark begins at is kept. -/
theorem replaceFrom_keep {c : Char} {rest : List Char} (elsewhere : ¬ mark <+: c :: rest) :
    replaceFrom mark new 0 (c :: rest) = c :: replaceFrom mark new 0 rest := by
  rw [replaceFrom, if_neg (mt startsWith_iff.mp elsewhere)]

private theorem replaceFrom_keep_append {first : Char} {others before : List Char}
    (passed : first ∉ before) (rest : List Char) :
    replaceFrom (first :: others) new 0 (before ++ rest) =
      before ++ replaceFrom (first :: others) new 0 rest := by
  induction before with
  | nil => rfl
  | cons c before ih =>
    obtain ⟨different, passed⟩ := not_or.mp (mt List.mem_cons.mpr passed)
    have elsewhere : ¬ first :: others <+: c :: (before ++ rest) := fun here =>
      different (List.cons_prefix_cons.mp here).1
    rw [List.cons_append, replaceFrom_keep elsewhere, ih passed, List.cons_append]

/-- No mark begins within an entity. -/
theorem replaceFrom_keep_entity (ampersand : mark.head? = some '&') {entity : String}
    (member : entity ∈ entities) {rest : List Char}
    (elsewhere : ¬ mark <+: entity.toList ++ rest) :
    replaceFrom mark new 0 (entity.toList ++ rest) =
      entity.toList ++ replaceFrom mark new 0 rest := by
  obtain ⟨others, rfl⟩ := List.head?_eq_some_iff.mp ampersand
  obtain ⟨shape, inside, _⟩ := entity_shape entity member
  rw [shape, List.cons_append] at elsewhere ⊢
  rw [replaceFrom_keep elsewhere, replaceFrom_keep_append inside, List.cons_append]

/-- By induction on the length, as the run goes on behind the whole mark where there is one. -/
private theorem Escaped.replaceAll {name entity : String} (passed : '&' ∉ name.toList)
    (member : entity ∈ entities) {text : List Char} (escaped : Escaped text) :
    Escaped (replaceAll ("&amp;".toList ++ name.toList) entity.toList text) := by
  unfold Text.replaceAll
  induction length : text.length using Nat.strong_induction_on generalizing text with
  | _ length ih =>
    subst length
    cases escaped with
    | nil => exact .nil
    | @plain c rest noMarkup noAmpersand escaped =>
      have elsewhere : ¬ "&amp;".toList ++ name.toList <+: c :: rest := fun here =>
        noAmpersand (List.cons_prefix_cons.mp here).1.symm
      rw [replaceFrom_keep elsewhere]
      exact (ih rest.length (by simp) escaped rfl).plain noMarkup noAmpersand
    | @entity found rest known escaped =>
      by_cases here : "&amp;".toList ++ name.toList <+: found.toList ++ rest
      · -- Only the escaped ampersand begins as the mark does.
        have opens : "&amp;".toList <+: found.toList ++ rest :=
          (List.prefix_append _ _).trans here
        obtain rfl : "&amp;" = found := eq_of_entity_isPrefix_append (by decide) known opens
        obtain ⟨behind, rfl⟩ := (List.prefix_append_right_inj _).mp here
        -- Behind it the name has no ampersand, so what comes after the name is a run again.
        rw [← List.append_assoc, replaceFrom_mark (by simp)]
        refine (ih behind.length ?_ (escaped.behind passed) rfl).entity member
        simp only [List.length_append]
        have long : "&amp;".toList.length = 5 := rfl
        omega
      · have shorter : rest.length < (found.toList ++ rest).length := by
          rw [(entity_shape found known).1, List.length_append, List.length_cons]
          omega
        rw [replaceFrom_keep_entity rfl known here]
        exact (ih rest.length shorter escaped rfl).entity known

end Replace

theorem escaped_escape (text : List Char) : Escaped (escape text) := by
  unfold escape
  apply List.foldlRecOn (motive := Escaped) spaceEntities restore (escaped_flatMap_entityOf text)
  intro text escaped name listed
  have inside : ∀ name ∈ spaceEntities, '&' ∉ (name ++ ";").toList ∧
      "&" ++ name ++ ";" ∈ entities := by
    decide
  obtain ⟨passed, member⟩ := inside name listed
  have replaced := escaped.replaceAll passed member
  rw [restore, String.append_assoc, String.toList_append]
  exact replaced

/-! ### What escaped text does to a page -/

/-- The text holds no markup, and every ampersand in it begins an entity that the text holds. -/
structure Inert (text : List Char) : Prop where
  noMarkup : markupOf text = []
  ampersands : ∀ before after, text = before ++ '&' :: after →
    ∃ entity ∈ entities, entity.toList <+: '&' :: after

theorem Escaped.inert {text : List Char} (escaped : Escaped text) : Inert text := by
  induction escaped with
  | nil => exact ⟨rfl, by simp⟩
  | @plain c rest noMarkup noAmpersand _ ih =>
    constructor
    · rw [markupOf, List.filter_cons_of_neg (by simpa using noMarkup)]
      exact ih.noMarkup
    · intro before after shape
      cases before with
      | nil =>
        cases shape
        exact absurd rfl noAmpersand
      | cons first before =>
        cases shape
        exact ih.ampersands before after rfl
  | @entity found rest member _ ih =>
    obtain ⟨opens, inside, plain⟩ := entity_shape found member
    constructor
    · rw [markupOf_append, plain, ih.noMarkup]
      rfl
    · intro before after shape
      cases before with
      | nil => exact ⟨found, member, rest, shape⟩
      | cons first before =>
        -- The entity has no second ampersand, so this one stands in the rest.
        rw [opens, List.cons_append, List.cons_append] at shape
        have behind := (List.cons.inj shape).2
        rcases List.append_eq_append_iff.mp behind with ⟨more, _, shape⟩ | ⟨more, split, shape⟩
        · exact ih.ampersands more after shape
        · cases more with
          | nil => exact ih.ampersands [] after shape.symm
          | cons c more =>
            cases shape
            exact absurd (split ▸ by simp) inside

/-- Text that is escaped cannot end what stands around it on a page. -/
theorem inert_escape (text : List Char) : Inert (escape text) := (escaped_escape text).inert

end Whereabouts.Page
