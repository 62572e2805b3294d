import Mathlib.Data.List.Forall2
import Whereabouts.Proofs.Text.Find
import Whereabouts.Text.Lines
/-!
# Lines and line feeds

The lines of a text are the pieces between its line feeds, but for what a line end adds to them: a
carriage return before a feed is no part of a line, and a feed at the end opens no line.
-/
namespace Whereabouts.Text

def isLineFeed (c : Char) : Bool := c == '\n'

theorem joinWith_cons_cons (separator : List Char) (c : Char) (first : List Char)
    (rest : List (List Char)) :
    joinWith separator ((c :: first) :: rest) = c :: joinWith separator (first :: rest) := by
  cases rest with
  | nil => rfl
  | cons next rest => rfl

/-- Cutting at the feeds loses nothing. -/
theorem joinWith_splitOn (text : List Char) : joinWith ['\n'] (splitOn isLineFeed text) = text := by
  induction text with
  | nil => rfl
  | cons c text ih =>
    obtain ⟨piece, pieces, shape⟩ := List.exists_cons_of_ne_nil (splitOn_ne_nil text)
    rw [splitOn]
    -- A feed ends an empty piece; any other character goes to the first one.
    split
    next feed =>
      rw [isLineFeed, beq_iff_eq] at feed
      rw [shape, joinWith, ← shape, ih, feed]
      rfl
    next =>
      rw [shape, joinWith_cons_cons, ← shape, ih]

private theorem splitOn_cons {stops : Char → Bool} {c : Char} {text piece : List Char}
    {pieces : List (List Char)} (passes : stops c = false) (cut : splitOn stops text = piece :: pieces) :
    splitOn stops (c :: text) = (c :: piece) :: pieces := by
  rw [splitOn, passes, cut]
  rfl

/-- Lines that were each ended with a feed are the pieces, and nothing is left behind the last. -/
theorem splitOn_ended {ended : List (List Char)} (short : ∀ line ∈ ended, '\n' ∉ line) :
    splitOn isLineFeed (ended.flatMap fun line => line ++ ['\n']) = ended ++ [[]] := by
  induction ended with
  | nil => rfl
  | cons line ended ih =>
    obtain ⟨first, short⟩ := List.forall_mem_cons.mp short
    have passes : ∀ c ∈ line, isLineFeed c = false := fun c member =>
      beq_false_of_ne fun feed => first (feed ▸ member)
    rw [List.flatMap_cons, List.append_assoc, List.singleton_append, splitOn_append line rfl,
      splitOn_of_passes passes, ih short]
    rfl

/-! ### Lines and pieces -/

/-- A piece is a line, perhaps with a carriage return behind it. -/
def EndsLine (line piece : List Char) : Prop := piece = line ∨ piece = line ++ ['\r']

private theorem EndsLine.refl (line : List Char) : EndsLine line line := .inl rfl

private theorem EndsLine.cons {line piece : List Char} (ends : EndsLine line piece) (c : Char) :
    EndsLine (c :: line) (c :: piece) := by
  rcases ends with rfl | rfl
  · exact .inl rfl
  · exact .inr rfl

/-- A character before a text goes to its first line and to its first piece. -/
private theorem EndsLine.cons_first {line piece : List Char} {lines pieces : List (List Char)}
    (ends : List.Forall₂ EndsLine (line :: lines) (piece :: pieces)) (c : Char) :
    List.Forall₂ EndsLine ((c :: line) :: lines) ((c :: piece) :: pieces) := by
  obtain ⟨first, rest⟩ := List.forall₂_cons.mp ends
  exact .cons (first.cons c) rest

private theorem lines_eq_nil {text : List Char} : lines text = [] ↔ text = [] := by
  fun_cases lines text with
  | case1 => exact iff_of_true rfl rfl
  | case2 | case3 | case4 | case5 => exact iff_of_false (List.cons_ne_nil _ _) (List.cons_ne_nil _ _)

/-- The pieces of a text end its lines, and there may be one more piece, which is empty. -/
theorem lines_end_pieces (text : List Char) :
    List.Forall₂ EndsLine (lines text) (splitOn isLineFeed text) ∨
      List.Forall₂ EndsLine (lines text ++ [[]]) (splitOn isLineFeed text) := by
  -- Which of the two it is shows at the end of the text, so both are carried through.
  fun_induction lines text with
  | case1 => exact .inr (.cons (.refl []) .nil)
  | case2 text ih =>
    rw [splitOn, if_pos (by rfl)]
    exact ih.imp (.cons (.refl [])) (.cons (.refl []))
  | case3 text ih =>
    -- The feed stands behind a carriage return, which is left in the piece.
    have shape : splitOn isLineFeed ('\r' :: '\n' :: text) = ['\r'] :: splitOn isLineFeed text := rfl
    rw [shape]
    exact ih.imp (.cons (.inr rfl)) (.cons (.inr rfl))
  | case4 c text noFeed _ none =>
    have passes : isLineFeed c = false := beq_false_of_ne noFeed
    -- This is the last line, and nothing ends it.
    rw [lines_eq_nil.mp none, splitOn_of_passes (by simpa using passes)]
    exact .inl (.cons (.refl [c]) .nil)
  | case5 c text noFeed _ line more shape ih =>
    have passes : isLineFeed c = false := beq_false_of_ne noFeed
    obtain ⟨piece, pieces, cut⟩ := List.exists_cons_of_ne_nil (splitOn_ne_nil text)
    rw [shape, cut] at ih
    rw [splitOn_cons passes cut]
    exact ih.imp (EndsLine.cons_first · c) (EndsLine.cons_first · c)

/-- A carriage return behind the text is put behind its last piece. -/
theorem endsLine_return (text : List Char) :
    List.Forall₂ EndsLine (splitOn isLineFeed text) (splitOn isLineFeed (text ++ ['\r'])) := by
  induction text with
  | nil => exact .cons (.inr rfl) .nil
  | cons c text ih =>
    obtain ⟨piece, pieces, cut⟩ := List.exists_cons_of_ne_nil (splitOn_ne_nil text)
    obtain ⟨piece', pieces', cut'⟩ := List.exists_cons_of_ne_nil (splitOn_ne_nil (text ++ ['\r']))
    rw [List.cons_append]
    -- Up to the end of the text both are cut at the same places.
    cases passes : isLineFeed c with
    | true =>
      rw [splitOn, if_pos passes, splitOn, if_pos passes]
      exact .cons (.refl []) ih
    | false =>
      rw [cut, cut'] at ih
      rw [splitOn_cons passes cut, splitOn_cons passes cut']
      exact EndsLine.cons_first ih c

end Whereabouts.Text
