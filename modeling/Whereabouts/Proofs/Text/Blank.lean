import Mathlib.Data.List.TakeWhile
import Whereabouts.Text.Blank
/-!
# What trimming leaves

Trimming takes blanks off both ends and nothing else.
-/
namespace Whereabouts.Text

theorem exists_dropEndWhile (drops : Char → Bool) (text : List Char) :
    ∃ after, text = dropEndWhile drops text ++ after ∧ ∀ c ∈ after, drops c = true := by
  refine ⟨(text.reverse.takeWhile drops).reverse, ?_, ?_⟩
  · rw [dropEndWhile, ← List.reverse_append, List.takeWhile_append_dropWhile, List.reverse_reverse]
  · exact fun c member => List.mem_takeWhile_imp (List.mem_reverse.mp member)

/-- A character is dropped if it is one to drop and nothing after it is left. -/
theorem dropEndWhile_cons (drops : Char → Bool) (c : Char) (text : List Char) :
    dropEndWhile drops (c :: text) =
      if dropEndWhile drops text = [] ∧ drops c = true then [] else c :: dropEndWhile drops text := by
  simp only [dropEndWhile, List.reverse_cons, List.dropWhile_append, List.isEmpty_iff,
    List.reverse_eq_nil_iff]
  by_cases nothing : text.reverse.dropWhile drops = []
  · by_cases here : drops c = true
    · simp [nothing, here]
    · simp [nothing, here]
  · simp [nothing]

theorem exists_trim (text : List Char) :
    ∃ before after, text = before ++ (trim text ++ after) ∧
      (∀ c ∈ before, isBlank c = true) ∧ ∀ c ∈ after, isBlank c = true := by
  obtain ⟨after, shape, blank⟩ := exists_dropEndWhile isBlank (text.dropWhile isBlank)
  refine ⟨text.takeWhile isBlank, after, ?_, fun c => List.mem_takeWhile_imp, blank⟩
  rw [trim, trimWhile, ← shape, List.takeWhile_append_dropWhile]

private theorem dropWhile_of_head? {drops : Char → Bool} {text : List Char}
    (shows : ∀ c ∈ text.head?, drops c = false) : text.dropWhile drops = text := by
  cases text with
  | nil => rfl
  | cons c text => exact List.dropWhile_cons_of_neg (by simp [shows c rfl])

/-- Blanks around a text that neither begins nor ends with one are taken off. -/
theorem trim_surrounded {before core after : List Char} (blank : ∀ c ∈ before, isBlank c = true)
    (blank' : ∀ c ∈ after, isBlank c = true) (first : ∀ c ∈ core.head?, isBlank c = false)
    (last : ∀ c ∈ core.getLast?, isBlank c = false) : trim (before ++ (core ++ after)) = core := by
  have fromEnd : dropEndWhile isBlank (core ++ after) = core := by
    rw [dropEndWhile, List.reverse_append, List.dropWhile_append_of_pos (by simpa using blank'),
      dropWhile_of_head? (by simpa using last), List.reverse_reverse]
  rw [trim, trimWhile, List.dropWhile_append_of_pos blank]
  cases core with
  | nil =>
    rw [List.nil_append, List.dropWhile_eq_nil_iff.mpr blank']
    rfl
  | cons c core => rw [dropWhile_of_head? (by simpa using first), fromEnd]

theorem trim_eq_nil {text : List Char} : trim text = [] ↔ ∀ c ∈ text, isBlank c = true := by
  constructor
  · intro nothing
    obtain ⟨before, after, shape, blank, blank'⟩ := exists_trim text
    rw [nothing, List.nil_append] at shape
    rw [shape]
    exact List.forall_mem_append.mpr ⟨blank, blank'⟩
  · intro blank
    rw [trim, trimWhile, List.dropWhile_eq_nil_iff.mpr blank]
    rfl

theorem dropWhile_of_shows {drops : Char → Bool} {text : List Char}
    (shows : ∀ c ∈ text, drops c = false) : text.dropWhile drops = text :=
  dropWhile_of_head? fun c first => shows c (List.mem_of_head? first)

theorem trimWhile_of_shows {drops : Char → Bool} {text : List Char}
    (shows : ∀ c ∈ text, drops c = false) : trimWhile drops text = text := by
  rw [trimWhile, dropEndWhile, dropWhile_of_shows shows,
    dropWhile_of_shows fun c member => shows c (List.mem_reverse.mp member), List.reverse_reverse]

end Whereabouts.Text
