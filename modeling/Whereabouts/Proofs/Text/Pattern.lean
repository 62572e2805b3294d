import Mathlib.Data.List.TakeWhile
/-!
# Patterns

A pattern is matched from the start of a text on, and may be matched in several ways. They stand in
order of preference: where a class of characters is repeated, taking more goes before taking less. A
search takes the preferred match at the first place that has any.

Where a repetition is followed by something that cannot begin with one more of its characters, only
its longest run matters, and no shorter one is ever fallen back on (`ways_seq_run`).
-/
namespace Whereabouts.Text

inductive Pattern where
  /-- One character of a class. -/
  | one (belongs : Char → Bool)
  /-- One or more characters of a class. -/
  | run (belongs : Char → Bool)
  /-- One pattern right behind another. -/
  | seq (first second : Pattern)

namespace Pattern

/-- The runs of a class at the start of the text, the longest first, each with what is left. -/
def runs (belongs : Char → Bool) : (text : List Char) → List (List Char × List Char)
  | [] => []
  | c :: text =>
    if belongs c then (runs belongs text).map (fun way => (c :: way.1, way.2)) ++ [([c], text)]
    else []

/-- The ways to match at the start of the text, the preferred one first: what is taken and what is
left. -/
def ways : (pattern : Pattern) → (text : List Char) → List (List Char × List Char)
  | one _, [] => []
  | one belongs, c :: text => if belongs c then [([c], text)] else []
  | run belongs, text => runs belongs text
  | seq first second, text =>
    (first.ways text).flatMap fun way =>
      (second.ways way.2).map fun next => (way.1 ++ next.1, next.2)

/-- What the pattern takes at the start of the text. -/
def match? (pattern : Pattern) (text : List Char) : Option (List Char) :=
  (pattern.ways text).head?.map Prod.fst

/-- What the pattern takes at the first place where it matches. -/
def search? (pattern : Pattern) : (text : List Char) → Option (List Char)
  | [] => pattern.match? []
  | c :: text => (pattern.match? (c :: text)).or (pattern.search? text)

theorem search?_of_match? {pattern : Pattern} {text found : List Char}
    (here : pattern.match? text = some found) : pattern.search? text = some found := by
  cases text with
  | nil => exact here
  | cons c text =>
    rw [search?, here]
    rfl

example : (seq (run Char.isDigit) (one (· == '-'))).search? "x12 345- 6-".toList =
    some "345-".toList := by decide

/-! ### Repetition -/

section Runs

variable {belongs : Char → Bool} {text : List Char}

private theorem runs_eq_nil (nothing : text.takeWhile belongs = []) : runs belongs text = [] := by
  cases text with
  | nil => rfl
  | cons c text =>
    have other : ¬ belongs c = true := by
      intro here
      rw [List.takeWhile_cons_of_pos here] at nothing
      cases nothing
    rw [runs, if_neg other]

/-- The longest run is preferred, and every other one leaves a text that could go on with it. -/
private theorem exists_runs (something : text.takeWhile belongs ≠ []) :
    ∃ shorter, runs belongs text = (text.takeWhile belongs, text.dropWhile belongs) :: shorter ∧
      ∀ way ∈ shorter, ∃ c left, way.2 = c :: left ∧ belongs c = true := by
  induction text with
  | nil => exact absurd rfl something
  | cons c text ih =>
    by_cases here : belongs c = true
    · rw [runs, if_pos here, List.takeWhile_cons_of_pos here, List.dropWhile_cons_of_pos here]
      by_cases nothing : text.takeWhile belongs = []
      · have dropped := List.takeWhile_append_dropWhile (p := belongs) (l := text)
        rw [nothing, List.nil_append] at dropped
        rw [runs_eq_nil nothing, nothing, dropped]
        exact ⟨[], rfl, nofun⟩
      · obtain ⟨shorter, longest, goesOn⟩ := ih nothing
        refine ⟨shorter.map (fun way => (c :: way.1, way.2)) ++ [([c], text)], ?_, ?_⟩
        · rw [longest]
          rfl
        · intro way member
          rcases List.mem_append.mp member with longer | alone
          · obtain ⟨way, there, rfl⟩ := List.mem_map.mp longer
            exact goesOn way there
          · -- The first character alone leaves the rest of the run.
            rw [List.mem_singleton.mp alone]
            cases text with
            | nil => exact absurd rfl nothing
            | cons next text =>
              refine ⟨next, text, rfl, ?_⟩
              by_contra other
              exact nothing (List.takeWhile_cons_of_neg other)
    · exact absurd (List.takeWhile_cons_of_neg here) something

/-- A repetition on its own takes the longest run. -/
theorem head?_ways_run (belongs : Char → Bool) (text : List Char) :
    ((run belongs).ways text).head? =
      if text.takeWhile belongs = [] then none
      else some (text.takeWhile belongs, text.dropWhile belongs) := by
  rw [ways]
  split
  next nothing => rw [runs_eq_nil nothing, List.head?_nil]
  next something =>
    obtain ⟨shorter, longest, _⟩ := exists_runs something
    rw [longest, List.head?_cons]

/-- So it does before something that cannot begin with one more of its characters. -/
theorem ways_seq_run {next : Pattern}
    (stuck : ∀ c left, belongs c = true → next.ways (c :: left) = []) (text : List Char) :
    (seq (run belongs) next).ways text =
      if text.takeWhile belongs = [] then []
      else (next.ways (text.dropWhile belongs)).map fun way =>
        (text.takeWhile belongs ++ way.1, way.2) := by
  rw [ways, ways]
  split
  next nothing => rw [runs_eq_nil nothing, List.flatMap_nil]
  next something =>
    obtain ⟨shorter, longest, goesOn⟩ := exists_runs something
    have nowhere : (shorter.flatMap fun way =>
        (next.ways way.2).map fun further => (way.1 ++ further.1, further.2)) = [] := by
      rw [List.flatMap_eq_nil_iff]
      intro way member
      obtain ⟨c, left, shape, here⟩ := goesOn way member
      rw [shape, stuck c left here, List.map_nil]
    rw [longest, List.flatMap_cons, nowhere, List.append_nil]

end Runs

/-! ### One character -/

theorem ways_seq_one (belongs : Char → Bool) (next : Pattern) (c : Char) (text : List Char) :
    (seq (one belongs) next).ways (c :: text) =
      if belongs c then (next.ways text).map fun way => (c :: way.1, way.2) else [] := by
  rw [ways, ways]
  split
  · rw [List.flatMap_singleton]
    rfl
  · rfl

end Pattern

end Whereabouts.Text
