import Mathlib.Data.Option.NAry
import Whereabouts.Json.Token
import Whereabouts.Proofs.Text.Lines
/-!
# Tokens line by line

## Main result

`tokens?_eq`: a text has the tokens of its lines, one line after the other.

## Strategy

No token goes on behind the end of a line: a word ends there, and a string or an escape that is still
open is a fault. So what follows a line end is read as a text of its own, and what is wrong before it
stays wrong whatever follows.
-/
namespace Whereabouts.Json

open Whereabouts.Text

/-- A line end closes what is open, if it can be closed there. -/
private theorem readChar?_lineEnd {c : Char} (ends : c = '\n' ∨ c = '\r') (mode : Mode) :
    readChar? mode c = (finish? mode).map fun tokens => (tokens, .between) := by
  have blank : begin? c = some ([], .between) := by rcases ends with rfl | rfl <;> rfl
  cases mode with
  | between => exact blank
  | word read =>
    have noWord : isWordChar c = false := by rcases ends with rfl | rfl <;> rfl
    rw [readChar?, noWord, blank, finish?]
    cases ofWord? read.reverse <;> rfl
  | text read =>
    -- As it stands, a control character is no part of a string.
    rcases ends with rfl | rfl <;> rfl
  | escape read => rcases ends with rfl | rfl <;> rfl
  | code read missing code => rcases ends with rfl | rfl <;> rfl

/-- What stands before a line end and what stands behind it are read apart. -/
private theorem tokensFrom?_lineEnd {c : Char} (ends : c = '\n' ∨ c = '\r') (mode : Mode)
    (before after : List Char) :
    tokensFrom? mode (before ++ c :: after) =
      Option.map₂ (· ++ ·) (tokensFrom? mode before) (tokens? after) := by
  -- What is open at the line end depends on all that stands before it.
  induction before generalizing mode with
  | nil =>
    rw [List.nil_append, tokensFrom?, tokensFrom?, readChar?_lineEnd ends, tokens?]
    cases finish? mode with
    | none => rfl
    | some tokens =>
      simp only [Option.map_some, Option.bind_eq_bind, Option.bind_some]
      cases tokensFrom? .between after <;> rfl
  | cons first before ih =>
    rw [List.cons_append, tokensFrom?, tokensFrom?]
    cases readChar? mode first with
    | none => rfl
    | some step =>
      obtain ⟨tokens, mode'⟩ := step
      simp only [Option.bind_eq_bind, Option.bind_some, ih]
      cases tokensFrom? mode' before with
      | none => rfl
      | some more => cases tokens? after <;> simp

/-! ### Lines -/

/-- The tokens of these lines, each read on its own. -/
def tokensOfLines? (lines : List (List Char)) : Option (List Token) :=
  lines.foldr (fun line more? => Option.map₂ (· ++ ·) (tokens? line) more?) (some [])

@[simp]
theorem tokensOfLines?_nil : tokensOfLines? [] = some [] := rfl

@[simp]
private theorem tokensOfLines?_cons (line : List Char) (lines : List (List Char)) :
    tokensOfLines? (line :: lines) =
      Option.map₂ (· ++ ·) (tokens? line) (tokensOfLines? lines) := rfl

theorem tokensOfLines?_append (first second : List (List Char)) :
    tokensOfLines? (first ++ second) =
      Option.map₂ (· ++ ·) (tokensOfLines? first) (tokensOfLines? second) := by
  induction first with
  | nil => simp
  | cons line lines ih =>
    rw [List.cons_append, tokensOfLines?_cons, tokensOfLines?_cons, ih]
    exact (Option.map₂_assoc List.append_assoc).symm

theorem tokens?_joinWith (lines : List (List Char)) :
    tokens? (joinWith ['\n'] lines) = tokensOfLines? lines := by
  induction lines with
  | nil => rfl
  | cons line lines ih =>
    cases lines with
    | nil => simp [joinWith]
    | cons next lines =>
      rw [joinWith, List.append_assoc, List.singleton_append, tokens?,
        tokensFrom?_lineEnd (.inl rfl), ih]
      rfl

/-- A carriage return behind a line says nothing. -/
private theorem tokens?_endsLine {line piece : List Char} (ends : EndsLine line piece) :
    tokens? piece = tokens? line := by
  rcases ends with rfl | rfl
  · rfl
  · rw [tokens?, tokensFrom?_lineEnd (.inr rfl)]
    exact Option.map₂_right_identity List.append_nil _

private theorem tokensOfLines?_ended {lines pieces : List (List Char)}
    (ended : List.Forall₂ EndsLine lines pieces) : tokensOfLines? pieces = tokensOfLines? lines := by
  induction ended with
  | nil => rfl
  | cons ends _ ih => rw [tokensOfLines?_cons, tokensOfLines?_cons, tokens?_endsLine ends, ih]

section Filter

variable {keeps : List Char → Bool}
  (ignores : ∀ line piece, EndsLine line piece → keeps piece = keeps line)
include ignores

theorem tokensOfLines?_filter_ended {lines pieces : List (List Char)}
    (ended : List.Forall₂ EndsLine lines pieces) :
    tokensOfLines? (pieces.filter keeps) = tokensOfLines? (lines.filter keeps) := by
  apply tokensOfLines?_ended
  refine List.rel_filter (fun line piece ends => ?_) ended
  exact Bool.eq_iff_iff.mp (ignores line piece ends).symm

/-- Among the lines that are kept, it does not matter how each of them ends, nor whether the last
does. -/
theorem tokensOfLines?_filter_lines (blank : keeps [] = true) (text : List Char) :
    tokensOfLines? ((lines text).filter keeps) =
      tokensOfLines? ((splitOn isLineFeed text).filter keeps) := by
  rcases lines_end_pieces text with ended | ended
  · exact (tokensOfLines?_filter_ended ignores ended).symm
  · rw [tokensOfLines?_filter_ended ignores ended, List.filter_append, tokensOfLines?_append,
      List.filter_cons_of_pos blank]
    exact (Option.map₂_right_identity List.append_nil _).symm

end Filter

theorem tokens?_eq (text : List Char) : tokens? text = tokensOfLines? (lines text) := by
  have all : tokensOfLines? ((lines text).filter fun _ => true) =
      tokensOfLines? ((splitOn isLineFeed text).filter fun _ => true) :=
    tokensOfLines?_filter_lines (fun _ _ _ => rfl) rfl text
  -- Nothing is left out here, and the pieces make up the text.
  rw [List.filter_true, List.filter_true] at all
  rw [all, ← tokens?_joinWith, joinWith_splitOn]

end Whereabouts.Json
