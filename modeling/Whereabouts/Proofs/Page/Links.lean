import Whereabouts.Proofs.Calendar.ReadBack
import Whereabouts.Proofs.Page.Walk
/-!
# The links of a page

## Main results

`header_on_page`: a page has the header behind every line that takes it. `anchors_header`: the header
links to the days that it should, in the order of the page, and then to the manual.

## Strategy

`anchors` reads links off any text. Text in which no link begins is `Quiet` and is passed over, so the
links of the header are read off link by link.
-/
namespace Whereabouts.Page

open Whereabouts.Text Whereabouts.Calendar

/-! ### Reading links -/

/-- The target and the label of a link, read from behind its first quote: the target goes up to the
next quote, and the label from the end of the tag to the next one. -/
def anchor? (text : List Char) : Option (List Char × List Char) := do
  let (target, attributes) ← splitAt? (· == '"') text
  let (_, inside) ← splitAt? (· == '>') attributes
  let (label, _) ← splitAt? (· == '<') inside
  some (target, label)

/-- The links in a text. -/
def anchors : (html : List Char) → List (List Char × List Char)
  | [] => []
  | c :: html =>
    match (afterPrefix? "<a href=\"".toList (c :: html)).bind anchor? with
    | some found => found :: anchors html
    | none => anchors html

private theorem anchors_of_passed {c : Char} {html : List Char}
    (passed : afterPrefix? "<a href=\"".toList (c :: html) = none) :
    anchors (c :: html) = anchors html := by
  rw [anchors, passed, Option.bind_none]

private theorem anchors_of_read {c : Char} {html inside : List Char} {found : List Char × List Char}
    (opened : afterPrefix? "<a href=\"".toList (c :: html) = some inside)
    (read : anchor? inside = some found) : anchors (c :: html) = found :: anchors html := by
  rw [anchors, opened, Option.bind_some, read]

/-- No link begins in the text, whatever follows it. -/
def Quiet (text : List Char) : Prop := ∀ rest, anchors (text ++ rest) = anchors rest

/-- The text can stand in quotes, and no tag begins in it. -/
def Plain (text : List Char) : Prop := '"' ∉ text ∧ '<' ∉ text

instance (text : List Char) : Decidable (Plain text) :=
  inferInstanceAs (Decidable (_ ∧ _))

private theorem Quiet.append {one two : List Char} (quiet : Quiet one) (quiet' : Quiet two) :
    Quiet (one ++ two) := by
  intro rest
  rw [List.append_assoc, quiet, quiet']

private theorem quiet_of_contains {text : List Char} (noLink : contains "<a".toList text = false)
    (closed : text.getLast? ≠ some '<') : Quiet text := by
  intro rest
  induction text with
  | nil => rfl
  | cons c text ih =>
    rw [← Bool.not_eq_true, contains_iff, List.infix_cons_iff, not_or] at noLink
    obtain ⟨notHere, notLater⟩ := noLink
    -- The mark of a link would begin with the end of the text, or stand in it.
    have passed : afterPrefix? "<a href=\"".toList (c :: (text ++ rest)) = none := by
      by_contra found
      obtain ⟨after, found⟩ := Option.ne_none_iff_exists'.mp found
      obtain ⟨rfl, behind⟩ := List.cons.inj (afterPrefix?_eq_some.mp found)
      cases text with
      | nil => exact closed rfl
      | cons second text =>
        obtain ⟨rfl, _⟩ := List.cons.inj behind
        exact notHere ⟨text, rfl⟩
    rw [List.cons_append, anchors_of_passed passed]
    refine ih (by rwa [← Bool.not_eq_true, contains_iff]) ?_
    cases text with
    | nil => simp
    | cons second text => rwa [List.getLast?_cons_cons] at closed

private theorem quiet_of_noTag {text : List Char} (noTag : '<' ∉ text) : Quiet text := by
  apply quiet_of_contains
  · rw [← Bool.not_eq_true, contains_iff]
    exact fun inside => noTag (inside.subset List.mem_cons_self)
  · exact fun last => noTag (List.mem_of_getLast? last)

/-! ### Writing links -/

/-- A link as pages write it. -/
def link (target attributes label : List Char) : List Char :=
  "<a href=\"".toList ++ (target ++ '"' :: (attributes ++ '>' :: (label ++ "</a>".toList)))

section Link

variable {target attributes label : List Char} (plain : Plain target)
  (closed : '<' ∉ attributes ∧ '>' ∉ attributes) (noTag : '<' ∉ label)

include plain closed noTag

private theorem anchor?_of_link (rest : List Char) :
    anchor? (target ++ '"' :: (attributes ++ '>' :: (label ++ '<' :: rest))) =
      some (target, label) := by
  have passes {c : Char} {text : List Char} (absent : c ∉ text) :
      ∀ other ∈ text, (other == c) = false :=
    fun other member => by simpa using fun same : other = c => absent (same ▸ member)
  have targetRead : splitAt? (· == '"')
      (target ++ '"' :: (attributes ++ '>' :: (label ++ '<' :: rest))) = some (target, _) :=
    splitAt?_eq_some.mpr ⟨'"', rfl, rfl, passes plain.1⟩
  have tagRead : splitAt? (· == '>') (attributes ++ '>' :: (label ++ '<' :: rest)) =
      some (attributes, _) := splitAt?_eq_some.mpr ⟨'>', rfl, rfl, passes closed.2⟩
  have labelRead : splitAt? (· == '<') (label ++ '<' :: rest) = some (label, _) :=
    splitAt?_eq_some.mpr ⟨'<', rfl, rfl, passes noTag⟩
  simp only [anchor?, targetRead, tagRead, labelRead, Option.bind_eq_bind, Option.bind_some]

/-- A link is read as it was written, and then what comes after it. -/
private theorem anchors_link (rest : List Char) :
    anchors (link target attributes label ++ rest) = (target, label) :: anchors rest := by
  have opening : "<a href=\"".toList = '<' :: "a href=\"".toList := by decide
  have closing : "</a>".toList = '<' :: "/a>".toList := by decide
  have opened (inside : List Char) :
      afterPrefix? "<a href=\"".toList ('<' :: ("a href=\"".toList ++ inside)) = some inside :=
    afterPrefix?_eq_some.mpr (by rw [opening, List.cons_append])
  have read : anchor? (target ++ '"' :: (attributes ++ '>' :: (label ++ "</a>".toList)) ++ rest) =
      some (target, label) := by
    simp only [closing, List.append_assoc, List.cons_append]
    exact anchor?_of_link plain closed noTag _
  -- Behind its first character no other link begins in it.
  have named : '<' ∉ "a href=\"".toList ++ (target ++ '"' :: (attributes ++ '>' :: label)) := by
    have mark : '<' ∉ "a href=\"".toList := by decide
    simp only [List.mem_append, List.mem_cons, not_or]
    exact ⟨mark, plain.2, by decide, closed.1, by decide, noTag⟩
  have ending : Quiet "</a>".toList := quiet_of_contains (by decide) (by decide)
  have behind := (quiet_of_noTag named).append ending rest
  unfold link
  rw [opening, List.cons_append, List.cons_append, List.append_assoc,
    anchors_of_read (opened _) read, ← behind]
  simp only [List.append_assoc, List.cons_append]

end Link

/-! ### The header -/

/-- What a page has below the line that opens its body. -/
def header (kind : Kind) (context : Context) : List Char :=
  navigation kind context ++ lastUpdated context ++ legend

def dayBefore : List Char := "←前日".toList

def dayAfter : List Char := "翌日→".toList

/-- The links to other days on a page that is made on this date. -/
def dayLinks (kind : Kind) (today : Date) : List (List Char × List Char) :=
  match kind with
  | .live => [("bk/".toList ++ (backupName today.previous).toList, dayBefore)]
  | .backup => [((backupName today.previous.previous).toList, dayBefore),
      ((backupName today).toList, dayAfter)]

/-- The link to the manual on every page. -/
def manualLink (context : Context) : List Char × List Char :=
  (context.manualUrl.toList, "マニュアル".toList)

/-- The links to other days as they are written. -/
def dayText (kind : Kind) (today : Date) : List Char :=
  match kind with
  | .live => link ("bk/".toList ++ (backupName today.previous).toList) [] dayBefore
  | .backup => link (backupName today.previous.previous).toList [] dayBefore ++
      (['◆'] ++ link (backupName today).toList [] dayAfter)

private theorem navigation_eq (kind : Kind) (context : Context) :
    navigation kind context =
      "<table border=\"0\" width=\"100%\"><tbody><tr><td align=\"left\">".toList ++
        (dayText kind context.now.date ++ ("</td><td align=\"right\">".toList ++
          (link context.manualUrl.toList " target=\"_blank\"".toList "マニュアル".toList ++
            ("</td></tr></tbody></table>".toList ++ endLine)))) := by
  -- The page is written in strings that end within a link; here each is cut where the link begins or
  -- ends.
  have opening : "<table border=\"0\" width=\"100%\"><tbody><tr><td align=\"left\"><a href=\"".toList =
      "<table border=\"0\" width=\"100%\"><tbody><tr><td align=\"left\">".toList ++
        "<a href=\"".toList := by decide
  have middle : "</td><td align=\"right\"><a href=\"".toList =
      "</td><td align=\"right\">".toList ++ "<a href=\"".toList := by decide
  have closing : "\" target=\"_blank\">マニュアル</a></td></tr></tbody></table>".toList =
      '"' :: (" target=\"_blank\"".toList ++ '>' :: ("マニュアル".toList ++
        ("</a>".toList ++ "</td></tr></tbody></table>".toList))) := by decide
  have before : "\">←前日</a>".toList = '"' :: '>' :: (dayBefore ++ "</a>".toList) := by decide
  have between : "\">←前日</a>◆<a href=\"".toList =
      '"' :: '>' :: (dayBefore ++ ("</a>".toList ++ '◆' :: "<a href=\"".toList)) := by decide
  have after : "\">翌日→</a>".toList = '"' :: '>' :: (dayAfter ++ "</a>".toList) := by decide
  unfold navigation links dayText link
  cases kind with
  | live =>
    simp only [opening, middle, closing, before, List.append_assoc, List.cons_append,
      List.nil_append]
  | backup =>
    simp only [opening, middle, closing, between, after, List.append_assoc, List.cons_append,
      List.nil_append]

private theorem plain_backupName (date : Date) : Plain (backupName date).toList := by
  have absent {c : Char} (other : ¬ (isDigit c = true ∨ c = '-' ∨ c = '+'))
      (extension : c ∉ ".html".toList) : c ∉ (backupName date).toList := by
    rw [backupName, String.toList_ofList, List.mem_append, not_or]
    exact ⟨Date.not_mem_written List.not_mem_nil other date, extension⟩
  exact ⟨absent (by decide) (by decide), absent (by decide) (by decide)⟩

/-- The links to other days are read as they are written. -/
private theorem anchors_dayText (kind : Kind) (today : Date) (rest : List Char) :
    anchors (dayText kind today ++ rest) = dayLinks kind today ++ anchors rest := by
  have inBackups (date : Date) : Plain ("bk/".toList ++ (backupName date).toList) := by
    obtain ⟨noQuote, noTag⟩ := plain_backupName date
    simp only [Plain, List.mem_append, not_or]
    exact ⟨⟨by decide, noQuote⟩, by decide, noTag⟩
  have mark : Quiet ['◆'] := quiet_of_noTag (by decide)
  cases kind with
  | live => exact anchors_link (inBackups _) (by decide) (by decide) rest
  | backup =>
    rw [dayText, List.append_assoc, List.append_assoc,
      anchors_link (plain_backupName _) (by decide) (by decide), mark,
      anchors_link (plain_backupName _) (by decide) (by decide)]
    rfl

private theorem quiet_lastUpdated (context : Context) : Quiet (lastUpdated context) := by
  -- The moment and the number of minutes are put into fixed text, and are digits and separators.
  have stamp : Quiet context.now.onPage := by
    have clock (n : Nat) : '<' ∉ fixed 2 n := fun tag => absurd (all_fixed 2 n _ tag) (by decide)
    have day : '<' ∉ context.now.date.written ['/'] :=
      Date.not_mem_written (by decide) (by decide) context.now.date
    refine quiet_of_noTag ?_
    simp only [Instant.onPage, Date.slashed, TimeOfDay.clock, List.mem_append, not_or]
    exact ⟨⟨day, by decide⟩, ⟨clock _, by decide⟩, clock _⟩
  have number : Quiet (digits context.intervalMinutes) :=
    quiet_of_noTag fun tag => absurd (all_digits _ _ tag) (by decide)
  unfold lastUpdated
  refine ((((Quiet.append ?_ number).append ?_).append stamp).append ?_).append ?_
  all_goals exact quiet_of_contains (by decide) (by decide)

private theorem quiet_legend : Quiet legend :=
  quiet_of_contains (by decide +kernel) (by decide +kernel)

/-- The header links to the days that it should and then, if its address can stand in quotes, to the
manual, and to nothing else. -/
theorem anchors_header (kind : Kind) (context : Context) :
    ∃ rest, anchors (header kind context) = dayLinks kind context.now.date ++ rest ∧
      (Plain context.manualUrl.toList → rest = [manualLink context]) := by
  have start : Quiet "<table border=\"0\" width=\"100%\"><tbody><tr><td align=\"left\">".toList :=
    quiet_of_contains (by decide) (by decide)
  have cell : Quiet "</td><td align=\"right\">".toList := quiet_of_contains (by decide) (by decide)
  have closing : Quiet ("</td></tr></tbody></table>".toList ++ endLine) :=
    quiet_of_contains (by decide) (by decide)
  have behind := (closing.append (quiet_lastUpdated context)).append quiet_legend
  rw [header, navigation_eq]
  simp only [List.append_assoc] at behind ⊢
  -- Whatever the address of the manual is, it stands behind the links to other days.
  refine ⟨_, (start _).trans (anchors_dayText kind context.now.date _), fun plain => ?_⟩
  rw [cell, anchors_link plain (by decide) (by decide), manualLink]
  have nothing := behind []
  rw [List.append_nil] at nothing
  rw [nothing]
  rfl

/-! ### The whole page -/

/-- The walk stops at each line that takes the header, whatever name it has in hand. -/
private theorem bodyLine_mem_piecesFrom {line : List Char} (takes : TakesHeader line)
    (kept : Option (List Char)) {lines : List (List Char)} (member : line ∈ lines) :
    .bodyLine line ∈ piecesFrom kept lines := by
  induction lines generalizing kept with
  | nil => cases member
  | cons first lines ih =>
    rcases List.mem_cons.mp member with rfl | later
    · rw [piecesFrom, holder?_eq_none.mpr takes.2]
      dsimp only
      rw [if_pos (opensBody_iff.mpr takes.1)]
      exact List.mem_append_right _ List.mem_cons_self
    · -- Whatever becomes of the first line, the others are read behind it.
      have behind (kept : Option (List Char)) := ih kept later
      rw [piecesFrom]
      split
      · split
        · exact List.mem_cons_of_mem _ (behind _)
        · exact List.mem_append_right _ (behind _)
      · split
        · exact List.mem_append_right _ (List.mem_cons_of_mem _ (behind _))
        · exact List.mem_append_right _ (behind _)

/-- The header stands below every line that takes it. -/
theorem header_on_page (template : String) (board : Board) (context : Context) (kind : Kind)
    {line : List Char} (member : line ∈ lines template.toList) (takes : TakesHeader line) :
    ∃ before after, (statusPage template board context kind).toList =
      before ++ (line ++ endLine ++ header kind context) ++ after := by
  obtain ⟨before, after, split⟩ := List.append_of_mem (bodyLine_mem_piecesFrom takes none member)
  rw [statusPage, String.toList_ofList, ← header, render, pieces, split, List.flatMap_append,
    List.flatMap_cons, renderPiece]
  exact ⟨_, _, (List.append_assoc ..).symm⟩

end Whereabouts.Page
