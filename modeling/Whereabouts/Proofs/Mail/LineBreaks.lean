import Whereabouts.Proofs.Mail.Requests
import Whereabouts.Mail.Interpretation
import Whereabouts.Proofs.Text.Blank
import Whereabouts.Proofs.Text.Lines
/-!
# How a body is broken into lines

## Main result

`same_wording_same_effect`: bodies that differ only in their line breaks and in the code points of
their charset have the same effect. A body that begins with a line break is none that a clear opens,
however the break is written.

## Strategy

1. `wording` is what such bodies have in common.
2. Neither writing a run of breaks as one line feed nor leaving out breaks at the end changes the
   lines, so bodies of one wording have the same lines.
3. The lines with a line feed between each two are the wording, so no other bodies have the same
   lines.
-/
namespace Whereabouts.Mail

open Whereabouts.Text Request

/-! ### The wording of a body -/

/-- The text with one line feed in place of each run of line breaks: the last break of a run stands
for all of it. -/
def singleBreaks : (text : List Char) → List Char
  | [] => []
  | c :: text =>
    if isLineBreak c then
      if text.head?.any isLineBreak then singleBreaks text else '\n' :: singleBreaks text
    else c :: singleBreaks text

/-- What a body says, however its lines are broken and whichever code points its charset has. Breaks
at the end say nothing. -/
def wording (body : List Char) : List Char := dropEndWhile isLineBreak (singleBreaks (unify body))

/-! ### Lines of a text -/

def isWritten (line : List Char) : Bool := !line.isEmpty

/-- The first piece, and those of the others that are not empty. -/
def linesOf (text : List Char) : List (List Char) :=
  match splitOn isLineBreak text with
  | [] => []
  | first :: rest => first :: rest.filter isWritten

theorem bodyLines_eq (body : List Char) : bodyLines body = linesOf (unify body) := rfl

section Lines

variable {c : Char} {text : List Char}

private theorem linesOf_ne_nil (text : List Char) : linesOf text ≠ [] := by
  obtain ⟨first, rest, pieces⟩ := List.exists_cons_of_ne_nil (splitOn_ne_nil text)
  rw [linesOf, pieces]
  exact List.cons_ne_nil _ _

theorem linesOf_break (breaks : isLineBreak c = true) :
    linesOf (c :: text) = [] :: (linesOf text).filter isWritten := by
  obtain ⟨first, rest, pieces⟩ := List.exists_cons_of_ne_nil (splitOn_ne_nil text)
  rw [linesOf, splitOn, if_pos breaks, linesOf, pieces]
  simp [List.filter_cons, List.filter_filter]

theorem linesOf_keep (keeps : isLineBreak c = false) {first : List Char} {rest : List (List Char)}
    (lines : linesOf text = first :: rest) : linesOf (c :: text) = (c :: first) :: rest := by
  obtain ⟨piece, pieces, shape⟩ := List.exists_cons_of_ne_nil (splitOn_ne_nil text)
  rw [linesOf, shape] at lines
  cases lines
  rw [linesOf, splitOn, keeps, shape]
  rfl

/-- Of two breaks one behind the other the first makes no line. -/
private theorem linesOf_break_twice (breaks : isLineBreak c = true)
    (further : text.head?.any isLineBreak = true) : linesOf (c :: text) = linesOf text := by
  cases text with
  | nil => cases further
  | cons next text =>
    have breaks' : isLineBreak next = true := further
    rw [linesOf_break breaks, linesOf_break breaks', List.filter_cons_of_neg Bool.false_ne_true,
      List.filter_filter]
    simp only [Bool.and_self]

/-- Every line but the first is written. -/
private theorem isWritten_of_mem_tail {line : List Char} (member : line ∈ (linesOf text).tail) :
    isWritten line = true := by
  obtain ⟨first, rest, pieces⟩ := List.exists_cons_of_ne_nil (splitOn_ne_nil text)
  rw [linesOf, pieces] at member
  exact (List.mem_filter.mp member).2

end Lines

/-! ### The wording of a body and its lines -/

private theorem linesOf_singleBreaks (text : List Char) :
    linesOf (singleBreaks text) = linesOf text := by
  fun_induction singleBreaks text with
  | case1 => rfl
  | case2 c text breaks further ih => rw [ih, linesOf_break_twice breaks further]
  | case3 c text breaks alone ih => rw [linesOf_break rfl, ih, linesOf_break breaks]
  | case4 c text keeps ih =>
    obtain ⟨first, rest, lines⟩ := List.exists_cons_of_ne_nil (linesOf_ne_nil text)
    have keeps : isLineBreak c = false := Bool.not_eq_true _ ▸ keeps
    rw [linesOf_keep keeps (ih.trans lines), linesOf_keep keeps lines]

theorem linesOf_append_breaks (text : List Char) {breaks : List Char}
    (all : ∀ c ∈ breaks, isLineBreak c = true) : linesOf (text ++ breaks) = linesOf text := by
  induction text with
  | nil =>
    -- Breaks alone leave the first line, which is empty.
    induction breaks with
    | nil => rfl
    | cons c breaks ih =>
      obtain ⟨first, others⟩ := List.forall_mem_cons.mp all
      rw [List.nil_append, linesOf_break first, ← List.nil_append breaks, ih others]
      rfl
  | cons c text ih =>
    rw [List.cons_append]
    cases here : isLineBreak c with
    | true => rw [linesOf_break here, ih, linesOf_break here]
    | false =>
      obtain ⟨first, rest, lines⟩ := List.exists_cons_of_ne_nil (linesOf_ne_nil text)
      rw [linesOf_keep here (ih.trans lines), linesOf_keep here lines]

private theorem bodyLines_eq_linesOf_wording (body : List Char) :
    bodyLines body = linesOf (wording body) := by
  obtain ⟨breaks, shape, all⟩ := exists_dropEndWhile isLineBreak (singleBreaks (unify body))
  rw [bodyLines_eq, ← linesOf_singleBreaks, shape, linesOf_append_breaks _ all]
  rfl

/-- The lines tell the wording. -/
private theorem joinWith_linesOf (text : List Char) :
    joinWith ['\n'] (linesOf text) = dropEndWhile isLineBreak (singleBreaks text) := by
  fun_induction singleBreaks text with
  | case1 => rfl
  | case2 c text breaks further ih => rw [linesOf_break_twice breaks further, ih]
  | case3 c text breaks alone ih =>
    rw [linesOf_break breaks, dropEndWhile_cons, ← ih]
    cases text with
    | nil => rfl
    | cons next text =>
      -- No line is left out, as the first one begins with the next character.
      have keeps : isLineBreak next = false := Bool.not_eq_true _ ▸ alone
      obtain ⟨first, rest, lines⟩ := List.exists_cons_of_ne_nil (linesOf_ne_nil text)
      have lines := linesOf_keep keeps lines
      have written : (linesOf (next :: text)).filter isWritten = linesOf (next :: text) := by
        rw [List.filter_eq_self, lines]
        refine List.forall_mem_cons.mpr ⟨rfl, fun line member => ?_⟩
        have behind : line ∈ (linesOf (next :: text)).tail := lines ▸ member
        exact isWritten_of_mem_tail behind
      rw [written, lines, joinWith, joinWith_cons_cons, if_neg (by simp)]
      rfl
  | case4 c text keeps ih =>
    obtain ⟨first, rest, lines⟩ := List.exists_cons_of_ne_nil (linesOf_ne_nil text)
    have keeps : isLineBreak c = false := Bool.not_eq_true _ ▸ keeps
    rw [linesOf_keep keeps lines, joinWith_cons_cons, ← lines, ih, dropEndWhile_cons, if_neg]
    simp [keeps]

private theorem bodyLines_eq_iff {one two : List Char} :
    bodyLines one = bodyLines two ↔ wording one = wording two := by
  constructor
  · intro same
    rw [wording, wording, ← joinWith_linesOf, ← joinWith_linesOf, ← bodyLines_eq, ← bodyLines_eq,
      same]
  · intro same
    rw [bodyLines_eq_linesOf_wording, same, ← bodyLines_eq_linesOf_wording]

theorem isLineBreak_unifyChar (c : Char) : isLineBreak (unifyChar c) = isLineBreak c := by
  unfold unifyChar
  split <;> rfl

private theorem head?_bodyLines_of_break {c : Char} (breaks : isLineBreak c = true)
    (rest : List Char) :
    (bodyLines (c :: rest)).head? = some [] := by
  have kept : isLineBreak (unifyChar c) = true := (isLineBreak_unifyChar c).trans breaks
  rw [bodyLines_eq, unify, List.map_cons, ← unify, linesOf_break kept]
  rfl

/-! ### Messages of one wording -/

private theorem not_clearsFirst_nil {lines : List (List Char)} (blank : lines.head? = some []) :
    ¬ ClearsFirst lines := by
  rintro ⟨line, first, mark, member, opens⟩
  rw [← List.head?_eq_getElem?, blank] at first
  cases first
  have nonempty : ∀ marker ∈ Command.markers, marker.1.toList ≠ [] := by decide
  exact nonempty _ member (List.prefix_nil.mp opens)

/-- Bodies have the same lines just if they have the same wording, and two messages that have the
wording in common, and all but the body, have the same effect on any board. Neither or both begin
with a clear; and if one begins with a line break, the first line of the other is empty and no
clear. -/
theorem same_wording_same_effect (board : Board) {one two : Message}
    (alike : two = { one with body := two.body }) :
    (bodyLines one.body.toList = bodyLines two.body.toList ↔
      wording one.body.toList = wording two.body.toList) ∧
    (wording one.body.toList = wording two.body.toList →
      interpret board one = interpret board two ∧
      (ClearsFirst (bodyLines one.body.toList) ↔ ClearsFirst (bodyLines two.body.toList)) ∧
      ∀ c rest, one.body.toList = c :: rest → isLineBreak c = true →
        (bodyLines two.body.toList).head? = some [] ∧
          ¬ ClearsFirst (bodyLines two.body.toList)) := by
  refine ⟨bodyLines_eq_iff, fun same => ?_⟩
  have lines : bodyLines one.body.toList = bodyLines two.body.toList := bodyLines_eq_iff.mpr same
  refine ⟨?_, lines ▸ Iff.rfl, ?_⟩
  · -- The body is read by its lines alone.
    have asked : ofBody one.body = ofBody two.body := by rw [ofBody, lines, ofBody]
    have judged : vet board.managers one = vet board.managers two := by rw [alike]; rfl
    have sent : one.sentAt = two.sentAt := by rw [alike]
    simp only [interpret, judged, asked, sent]
  · intro c rest shape breaks
    have blank : (bodyLines two.body.toList).head? = some [] := by
      rw [← lines, shape]
      exact head?_bodyLines_of_break breaks rest
    exact ⟨blank, not_clearsFirst_nil blank⟩

/-- Alice begins her day in these words. -/
def beginsDay (body : String) : Message where
  fromHeader := "Alice <alice@example.com>"
  returnPath := none
  sentAt := .startOfDay .epoch
  body := body

/-- One mail program writes line feeds and the wave dash, the other one pairs and the tilde. -/
theorem same_wording_same_effect_of_begun_day :
    let board := Board.new "example.com"
    let one := beginsDay "\n[開始]\nAM[9:00〜18:00]"
    let two := beginsDay "\r\n\r\n[開始]\r\n\r\nAM[9:00～18:00]\r\n"
    two = { one with body := two.body } ∧
      wording one.body.toList = wording two.body.toList ∧
      (interpret board one).2 = .applied "alice@example.com" .start .none ∧
      interpret board one = interpret board two ∧
      (bodyLines two.body.toList).head? = some [] := by
  intro board one two
  have alike : two = { one with body := two.body } := rfl
  have same : wording one.body.toList = wording two.body.toList := by decide +kernel
  have applied : (interpret board one).2 = .applied "alice@example.com" .start .none := by
    decide +kernel
  have shape : one.body.toList = '\n' :: "[開始]\nAM[9:00〜18:00]".toList := by decide +kernel
  obtain ⟨effect, _, opens⟩ := (same_wording_same_effect board alike).2 same
  exact ⟨alike, same, applied, effect, (opens _ _ shape rfl).1⟩

end Whereabouts.Mail
