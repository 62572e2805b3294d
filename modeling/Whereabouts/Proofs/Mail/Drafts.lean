import Whereabouts.Proofs.Mail.Records
/-!
# What the fields of an absence say

## Main results

`foldl_draft`: of the fields of a report that are repeated the last counts.

`personIn?_eq`: of the persons that a withdrawal names the first counts.

## Strategy

A line is a field of one label only, so what the lines say in one field depends on the values of that
label alone. A value in brackets is told by the text between them, as long as that text does not close
them.
-/
namespace Whereabouts.Mail

open Whereabouts.Text

/-! ### Reports -/

namespace Draft

/-- The draft after these lines. -/
def afterLines (lines : List (List Char)) (draft : Draft) : Draft :=
  let values (label : Label) := valuesOf label lines
  { person := ((values .person).map fun value => some (fieldValue value)).getLastD draft.person
    period := ((values .period).map fieldValue).getLastD draft.period
    status := ((values .reason).map classify).getLastD draft.status
    statusText :=
      ((values .reason).map fun value => some (bracketString value)).getLastD draft.statusText
    tel := ((values .absenceTel).map fun value => some (bracketString value)).getLastD draft.tel }

private theorem afterLines_append (first second : List (List Char)) (draft : Draft) :
    afterLines (first ++ second) draft = afterLines second (afterLines first draft) := by
  simp only [afterLines, valuesOf, List.filterMap_append, List.map_append, getLastD_append]

private theorem afterLines_singleton (line : List Char) (draft : Draft) :
    afterLines [line] draft = draft.setField line := by
  have value (label : Label) (listed : label ∈ Label.ofAbsence) := valueOf?_eq listed line
  -- As with one's own day, both sides depend on the one field that the line is.
  simp only [afterLines, valuesOf, List.filterMap_cons, List.filterMap_nil,
    value .person (by decide), value .period (by decide), value .reason (by decide),
    value .absenceTel (by decide), setField]
  cases readField? Label.ofAbsence line with
  | none => rfl
  | some field =>
    obtain ⟨label, value⟩ := field
    cases label <;> rfl

end Draft

theorem foldl_draft (lines : List (List Char)) (draft : Draft) :
    lines.foldl Draft.setField draft = draft.afterLines lines :=
  foldl_eq_of_append (fun _ => rfl) Draft.afterLines_singleton Draft.afterLines_append lines draft

/-! ### Withdrawals -/

theorem personIn?_eq (lines : List (List Char)) :
    personIn? lines = (valuesOf .person lines).head?.map fieldValue := by
  induction lines with
  | nil => rfl
  | cons line lines ih =>
    have value := valueOf?_eq (List.mem_singleton_self Label.person) line
    rw [personIn?, valuesOf, List.filterMap_cons, value]
    cases read : readField? [.person] line with
    | none => exact ih
    | some field =>
      -- There is one label to try, so the field that is read names a person.
      obtain ⟨label, text⟩ := field
      obtain rfl := List.mem_singleton.mp (valueOf?_of_readField? read).1
      rfl

/-! ### Fields in brackets -/

def inBrackets (value : List Char) : List Char := '[' :: (value ++ [']'])

/-- A field whose value is all in brackets. -/
def fieldLine (label : Label) (value : List Char) : List Char := label.text.toList ++ inBrackets value

theorem bracketText_inBrackets {value : List Char} (closed : ']' ∉ value) :
    bracketText (inBrackets value) = value := by
  have closes : splitAt? (· == ']') (value ++ [']']) = some (value, []) := by
    refine splitAt?_eq_some.mpr ⟨']', rfl, rfl, fun c member => ?_⟩
    exact beq_false_of_ne fun closing => closed (closing ▸ member)
  have opens : splitAt? (· == '[') (inBrackets value) = some ([], value ++ [']']) := rfl
  rw [bracketText, opens]
  dsimp only
  rw [closes]

theorem trimStart_fieldLine (label : Label) (value : List Char) :
    trimStart (fieldLine label value) = fieldLine label value := by
  cases label <;> rfl

/-- The line is a field of its own label only. -/
@[simp]
theorem valueOf?_fieldLine (label own : Label) (value : List Char) :
    valueOf? label (fieldLine own value) = if label = own then some (inBrackets value) else none := by
  have here : valueOf? own (fieldLine own value) = some (inBrackets value) := by
    rw [valueOf?, trimStart_fieldLine]
    exact afterPrefix?_eq_some.mpr rfl
  split
  next same => rw [same, here]
  next different =>
    by_contra present
    obtain ⟨value', there⟩ := Option.ne_none_iff_exists'.mp present
    exact different (label_unique there here)

end Whereabouts.Mail
