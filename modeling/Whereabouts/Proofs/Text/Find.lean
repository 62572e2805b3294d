import Mathlib.Data.List.Infix
import Whereabouts.Text.Find
/-!
# What is found

Finding is told by the text it takes apart: the parts around a mark or a character that stops, with
no such character on the side that is searched first.
-/
namespace Whereabouts.Text

/-! ### Marks -/

theorem startsWith_iff {mark text : List Char} : startsWith mark text = true ↔ mark <+: text := by
  simp only [startsWith, Option.isSome_iff_exists, afterPrefix?_eq_some]
  exact exists_congr fun _ => eq_comm

theorem contains_iff {mark text : List Char} : contains mark text = true ↔ mark <:+: text := by
  induction text with
  | nil =>
    rw [contains, cut?]
    split
    next here => exact iff_of_true rfl (startsWith_iff.mp here).isInfix
    next elsewhere =>
      refine iff_of_false Bool.false_ne_true fun inside => elsewhere (startsWith_iff.mpr ?_)
      exact List.infix_nil.mp inside ▸ List.nil_prefix
  | cons c text ih =>
    rw [List.infix_cons_iff, ← startsWith_iff, ← ih, contains, contains, cut?]
    split
    next here => exact iff_of_true rfl (.inl here)
    next elsewhere =>
      rw [Option.isSome_map]
      exact (or_iff_right elsewhere).symm

/-- The second part begins with the mark. -/
private theorem prefix_of_cut? {mark text before rest : List Char}
    (found : cut? mark text = some (before, rest)) : mark <+: rest := by
  induction text generalizing before with
  | nil =>
    rw [cut?] at found
    split at found
    next here =>
      cases found
      exact startsWith_iff.mp here
    · cases found
  | cons c text ih =>
    rw [cut?] at found
    split at found
    next here =>
      cases found
      exact startsWith_iff.mp here
    · obtain ⟨⟨before', rest'⟩, later, same⟩ := Option.map_eq_some_iff.mp found
      cases same
      exact ih later

/-- No mark begins before the one that is found. -/
theorem length_le_of_cut? {mark text before rest : List Char}
    (found : cut? mark text = some (before, rest)) {before' : List Char}
    (occurs : before' ++ mark <+: text) : before.length ≤ before'.length := by
  induction text generalizing before before' with
  | nil =>
    rw [cut?] at found
    split at found
    · cases found
      exact Nat.zero_le _
    · cases found
  | cons c text ih =>
    rw [cut?] at found
    split at found
    · cases found
      exact Nat.zero_le _
    next elsewhere =>
      obtain ⟨⟨before'', rest'⟩, later, same⟩ := Option.map_eq_some_iff.mp found
      cases same
      cases before' with
      | nil => exact absurd (startsWith_iff.mpr occurs) elsewhere
      | cons c' before' => exact Nat.succ_le_succ (ih later (List.cons_prefix_cons.mp occurs).2)

/-- The text is cut where a mark begins and none begins before. -/
theorem cut?_eq_some {mark text before rest : List Char} :
    cut? mark text = some (before, rest) ↔
      text = before ++ rest ∧ mark <+: rest ∧
        ∀ before', before' ++ mark <+: text → before.length ≤ before'.length := by
  constructor
  · intro found
    exact ⟨(append_of_cut? found).symm, prefix_of_cut? found, fun _ => length_le_of_cut? found⟩
  · rintro ⟨rfl, begins, first⟩
    have inside : contains mark (before ++ rest) = true :=
      contains_iff.mpr (begins.isInfix.trans (List.suffix_append before rest).isInfix)
    obtain ⟨⟨before', rest'⟩, found⟩ := Option.isSome_iff_exists.mp inside
    -- Each of the two places comes no later than the other.
    have shape := append_of_cut? found
    have earlier := length_le_of_cut? found ((List.prefix_append_right_inj before).mpr begins)
    have later := first before' (shape ▸ (List.prefix_append_right_inj before').mpr
      (prefix_of_cut? found))
    obtain ⟨rfl, rfl⟩ := List.append_inj shape (Nat.le_antisymm earlier later)
    exact found

theorem cut?_singleton {c : Char} {text before rest : List Char} :
    cut? [c] text = some (before, rest) ↔
      ∃ after, text = before ++ c :: after ∧ rest = c :: after ∧ c ∉ before := by
  rw [cut?_eq_some]
  constructor
  · rintro ⟨rfl, ⟨after, rfl⟩, first⟩
    refine ⟨after, rfl, rfl, fun inside => ?_⟩
    obtain ⟨early, late, rfl⟩ := List.append_of_mem inside
    have least := first early ⟨late ++ c :: after, by simp⟩
    rw [List.length_append, List.length_cons] at least
    omega
  · rintro ⟨after, rfl, rfl, passed⟩
    refine ⟨rfl, ⟨after, rfl⟩, fun before' begins => ?_⟩
    by_contra early
    have within : (before' ++ [c]).length ≤ before.length := by
      rw [List.length_append, List.length_singleton]
      omega
    -- A mark that begins earlier would be among the characters that were passed.
    obtain ⟨more, rfl⟩ :=
      List.prefix_of_prefix_length_le begins (List.prefix_append before (c :: after)) within
    simp at passed

/-! ### Characters that stop -/

variable {stops : Char → Bool}

theorem splitAt?_eq_some {text before after : List Char} :
    splitAt? stops text = some (before, after) ↔
      ∃ c, text = before ++ c :: after ∧ stops c = true ∧ ∀ c ∈ before, stops c = false := by
  induction text generalizing before with
  | nil => simp [splitAt?]
  | cons first text ih =>
    rw [splitAt?]
    split
    next stop =>
      constructor
      · intro found
        cases found
        exact ⟨first, rfl, stop, nofun⟩
      · rintro ⟨c, shape, _, passes⟩
        cases before with
        | nil =>
          cases shape
          rfl
        | cons other before =>
          cases shape
          simp [passes first List.mem_cons_self] at stop
    next pass =>
      rw [Option.map_eq_some_iff]
      constructor
      · rintro ⟨⟨before', after'⟩, found, same⟩
        cases same
        obtain ⟨c, rfl, stop, passes⟩ := ih.mp found
        exact ⟨c, rfl, stop, List.forall_mem_cons.mpr ⟨Bool.not_eq_true _ ▸ pass, passes⟩⟩
      · rintro ⟨c, shape, stop, passes⟩
        cases before with
        | nil =>
          cases shape
          exact absurd stop pass
        | cons other before =>
          cases shape
          exact ⟨(before, after), ih.mpr ⟨c, rfl, stop, (List.forall_mem_cons.mp passes).2⟩, rfl⟩

theorem splitAt?_eq_none {text : List Char} :
    splitAt? stops text = none ↔ ∀ c ∈ text, stops c = false := by
  induction text with
  | nil => simp [splitAt?]
  | cons first text ih =>
    rw [splitAt?, List.forall_mem_cons, ← ih]
    split
    next stop => simp [stop]
    next pass => simp [pass]

private theorem stops_of_beforeLast?_eq_none {text : List Char}
    (nothing : beforeLast? stops text = none) : ∀ c ∈ text, stops c = false := by
  induction text with
  | nil => simp
  | cons c text ih =>
    rw [beforeLast?] at nothing
    split at nothing
    · cases nothing
    next later =>
      split at nothing
      · cases nothing
      next passes => exact List.forall_mem_cons.mpr ⟨Bool.not_eq_true _ ▸ passes, ih later⟩

theorem beforeLast?_eq_some {text before : List Char}
    (found : beforeLast? stops text = some before) :
    ∃ c rest, text = before ++ c :: rest ∧ stops c = true ∧ ∀ c ∈ rest, stops c = false := by
  induction text generalizing before with
  | nil => cases found
  | cons first text ih =>
    rw [beforeLast?] at found
    split at found
    next later =>
      cases found
      obtain ⟨c, rest, rfl, stop, passes⟩ := ih later
      exact ⟨c, rest, rfl, stop, passes⟩
    next nothing =>
      split at found
      next stop =>
        cases found
        exact ⟨first, text, rfl, stop, stops_of_beforeLast?_eq_none nothing⟩
      · cases found

theorem beforeLast?_append {c : Char} (before : List Char) {rest : List Char}
    (stop : stops c = true) (passes : ∀ c ∈ rest, stops c = false) :
    beforeLast? stops (before ++ c :: rest) = some before := by
  induction before with
  | nil =>
    have nothing : beforeLast? stops rest = none := by
      by_contra found
      obtain ⟨before, found⟩ := Option.ne_none_iff_exists'.mp found
      obtain ⟨other, after, rfl, stop, _⟩ := beforeLast?_eq_some found
      simp [passes other (by simp)] at stop
    rw [List.nil_append, beforeLast?, nothing]
    exact if_pos stop
  | cons first before ih => rw [List.cons_append, beforeLast?, ih]

/-! ### Pieces -/

theorem splitOn_ne_nil (text : List Char) : splitOn stops text ≠ [] := by
  cases text with
  | nil => simp [splitOn]
  | cons c text =>
    rw [splitOn]
    split
    · simp
    · split <;> simp

theorem splitOn_of_passes {text : List Char} (passes : ∀ c ∈ text, stops c = false) :
    splitOn stops text = [text] := by
  induction text with
  | nil => rfl
  | cons c text ih =>
    obtain ⟨pass, passes⟩ := List.forall_mem_cons.mp passes
    simp [splitOn, pass, ih passes]

theorem splitOn_append (before : List Char) {c : Char} (stop : stops c = true) (after : List Char) :
    splitOn stops (before ++ c :: after) = splitOn stops before ++ splitOn stops after := by
  induction before with
  | nil => simp [splitOn, stop]
  | cons first before ih =>
    rw [List.cons_append, splitOn, splitOn, ih]
    split
    · rfl
    · obtain ⟨piece, pieces, shape⟩ := List.exists_cons_of_ne_nil (splitOn_ne_nil before)
      rw [shape]
      rfl

/-! ### Pieces between marks -/

/-- The pieces between the marks, which are found from the left and without overlaps. `passed` counts
the characters of a mark found before that are still to be passed over. -/
def splitFrom (mark : List Char) : (passed : Nat) → (text : List Char) → List (List Char)
  | _, [] => [[]]
  | passed + 1, _ :: text => splitFrom mark passed text
  | 0, c :: text =>
    if startsWith mark (c :: text) then [] :: splitFrom mark (mark.length - 1) text
    else
      match splitFrom mark 0 text with
      | [] => [[c]]
      | piece :: pieces => (c :: piece) :: pieces

def splitAtMarks (mark text : List Char) : List (List Char) := splitFrom mark 0 text

section Marks

variable {m : Char} {more : List Char}

private theorem splitFrom_passed (mark run rest : List Char) :
    splitFrom mark run.length (run ++ rest) = splitAtMarks mark rest := by
  induction run with
  | nil => rfl
  | cons c run ih => exact ih

private theorem splitAtMarks_mark (rest : List Char) :
    splitAtMarks (m :: more) (m :: more ++ rest) = [] :: splitAtMarks (m :: more) rest := by
  have here : startsWith (m :: more) (m :: (more ++ rest)) = true :=
    startsWith_iff.mpr ⟨rest, rfl⟩
  rw [List.cons_append, splitAtMarks, splitFrom, if_pos here]
  exact congrArg ([] :: ·) (splitFrom_passed (m :: more) more rest)

/-- Where no mark begins, the character goes to the first piece. -/
private theorem splitAtMarks_cons {c : Char} (other : c ≠ m) {text piece : List Char}
    {pieces : List (List Char)} (cut : splitAtMarks (m :: more) text = piece :: pieces) :
    splitAtMarks (m :: more) (c :: text) = (c :: piece) :: pieces := by
  have elsewhere : ¬ startsWith (m :: more) (c :: text) = true := by
    rw [startsWith_iff]
    exact fun begins => other (List.cons_prefix_cons.mp begins).1.symm
  rw [splitAtMarks] at cut ⊢
  rw [splitFrom, if_neg elsewhere, cut]

/-- A piece in which no mark can begin, with more pieces behind it. -/
theorem splitAtMarks_append {piece : List Char} (plain : m ∉ piece) (rest : List Char) :
    splitAtMarks (m :: more) (piece ++ (m :: more ++ rest)) =
      piece :: splitAtMarks (m :: more) rest := by
  induction piece with
  | nil => exact splitAtMarks_mark rest
  | cons c piece ih =>
    obtain ⟨other, plain⟩ := List.ne_and_not_mem_of_not_mem_cons plain
    exact splitAtMarks_cons other.symm (ih plain)

theorem splitAtMarks_of_plain {piece : List Char} (plain : m ∉ piece) :
    splitAtMarks (m :: more) piece = [piece] := by
  induction piece with
  | nil => rfl
  | cons c piece ih =>
    obtain ⟨other, plain⟩ := List.ne_and_not_mem_of_not_mem_cons plain
    exact splitAtMarks_cons other.symm (ih plain)

end Marks

end Whereabouts.Text
