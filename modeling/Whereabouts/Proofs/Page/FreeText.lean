import Whereabouts.Proofs.Page.Escape
import Whereabouts.Proofs.Page.Placeholder
import Whereabouts.Proofs.Page.Walk
/-!
# Text from mail on a page

## Main result

`mail_text_is_inert`: two boards that differ in text from mail alone make pages with the same markup.
All that differs between the pages stands in places of an outline that is the same for all such
boards, and what fills a place holds no markup and no ampersand but those of its entities.

## Strategy

1. A text is outlined over a class of boards if there is one outline that it fills for each of them.
2. Fixed text is outlined, escaped text is, and so is what is put together from both.
3. Boards that differ in text alone show alike records and alike notices of everybody, so a cell is
   made in the same way for all of them.
4. A contact number takes the place of the template's own text, which may be markup. This is the only
   reason why a value that is there must be there on the other board too.
-/
namespace Whereabouts.Page

open Whereabouts.Text Whereabouts.Calendar

/-! ### Outlines -/

/-- A part of a page: text that is there whatever mail says, or a place for text from mail. -/
inductive Part where
  | fixed (text : List Char)
  | place

inductive Fills : List Part → List Char → Prop
  | nil : Fills [] []
  | fixed (text : List Char) {outline : List Part} {rest : List Char} (fills : Fills outline rest) :
      Fills (.fixed text :: outline) (text ++ rest)
  | place {text : List Char} {outline : List Part} {rest : List Char} (inert : Inert text)
      (fills : Fills outline rest) : Fills (.place :: outline) (text ++ rest)

private theorem Fills.append {first second : List Part} {text rest : List Char}
    (fills : Fills first text) (fills' : Fills second rest) :
    Fills (first ++ second) (text ++ rest) := by
  induction fills with
  | nil => exact fills'
  | fixed text _ ih =>
    rw [List.append_assoc]
    exact .fixed text ih
  | place inert _ ih =>
    rw [List.append_assoc]
    exact .place inert ih

/-- Texts that fill one outline have the same markup. -/
private theorem Fills.markupOf_eq {outline : List Part} {one two : List Char}
    (fills : Fills outline one) (fills' : Fills outline two) : markupOf one = markupOf two := by
  induction fills generalizing two with
  | nil =>
    cases fills'
    rfl
  | fixed text _ ih =>
    cases fills' with
    | fixed _ fills' => rw [markupOf_append, markupOf_append, ih fills']
  | place inert _ ih =>
    cases fills' with
    | place inert' fills' =>
      rw [markupOf_append, markupOf_append, inert.noMarkup, inert'.noMarkup, ih fills']

/-- There is one outline that the text fills for all members of the class. -/
def Outlined {α : Type} (alike : α → Prop) (text : α → List Char) : Prop :=
  ∃ outline, ∀ one, alike one → Fills outline (text one)

namespace Outlined

variable {α β : Type} {alike : α → Prop} {text text' : α → List Char}

private theorem fixed (constant : List Char) : Outlined alike fun _ => constant :=
  ⟨[.fixed constant], fun _ _ => by simpa using Fills.fixed constant .nil⟩

private theorem place (escaped : ∀ one, alike one → Escaped (text one)) : Outlined alike text :=
  ⟨[.place], fun one member => by simpa using Fills.place (escaped one member).inert .nil⟩

private theorem append (outlined : Outlined alike text) (outlined' : Outlined alike text') :
    Outlined alike fun one => text one ++ text' one := by
  obtain ⟨outline, fills⟩ := outlined
  obtain ⟨outline', fills'⟩ := outlined'
  exact ⟨outline ++ outline', fun one member => (fills one member).append (fills' one member)⟩

private theorem flatMap {items : List β} {write : β → α → List Char}
    (outlined : ∀ item ∈ items, Outlined alike (write item)) :
    Outlined alike fun one => items.flatMap fun item => write item one := by
  induction items with
  | nil => exact .fixed []
  | cons item items ih =>
    have first := outlined item List.mem_cons_self
    have others := ih fun other member => outlined other (List.mem_cons_of_mem item member)
    exact first.append others

/-- What is outlined over another class is outlined, if each member writes as one of that class. -/
private theorem transfer {alike' : β → Prop} {write : β → List Char}
    (outlined : Outlined alike' write)
    (same : ∀ one, alike one → ∃ other, alike' other ∧ text one = write other) :
    Outlined alike text := by
  obtain ⟨outline, fills⟩ := outlined
  refine ⟨outline, ?_⟩
  intro one member
  obtain ⟨other, member', equal⟩ := same one member
  rw [equal]
  exact fills other member'

private theorem congr (outlined : Outlined alike text')
    (same : ∀ one, alike one → text one = text' one) :
    Outlined alike text :=
  outlined.transfer fun one member => ⟨one, member, same one member⟩

end Outlined

end Whereabouts.Page

namespace Whereabouts

open Whereabouts.Calendar

/-! ### Boards that differ in text -/

/-- The records differ at most in what is written in them; a value that is there on one is there on
the other. -/
structure Person.SameButText (one two : Person) : Prop where
  morning : one.morning = two.morning
  afternoon : one.afternoon = two.afternoon
  finished : one.finished = two.finished
  firstReceived : one.firstReceived = two.firstReceived
  lastReceived : one.lastReceived = two.lastReceived
  morningText : one.morningText.isSome = two.morningText.isSome
  afternoonText : one.afternoonText.isSome = two.afternoonText.isSome
  tel : one.tel.isSome = two.tel.isSome
  reportedBy : one.reportedBy.isSome = two.reportedBy.isSome

/-- The notices differ at most in what is written in them. The period may be spelt in another way,
if it is the same period. -/
structure Notice.SameButText (one two : Notice) : Prop where
  reportedAt : one.reportedAt = two.reportedAt
  subject : one.subject = two.subject
  interval : one.interval.toOption = two.interval.toOption
  status : one.status = two.status
  statusText : one.statusText.isSome = two.statusText.isSome
  tel : one.tel.isSome = two.tel.isSome

structure Board.SameButText (one two : Board) : Prop where
  domain : one.domain = two.domain
  roster : ∀ address,
    Option.Rel Person.SameButText (one.roster.find? address) (two.roster.find? address)
  notices : ∀ subject,
    List.Forall₂ Notice.SameButText (one.notices.forSubject subject) (two.notices.forSubject subject)

private theorem Person.SameButText.refl (person : Person) : person.SameButText person :=
  ⟨rfl, rfl, rfl, rfl, rfl, rfl, rfl, rfl, rfl⟩

private theorem Notice.SameButText.refl (notice : Notice) : notice.SameButText notice :=
  ⟨rfl, rfl, rfl, rfl, rfl, rfl⟩

private theorem Board.SameButText.refl (board : Board) : board.SameButText board where
  domain := rfl
  roster := by
    intro address
    cases board.roster.find? address with
    | none => exact .none
    | some person => exact .some (.refl person)
  notices subject := List.forall₂_same.mpr fun notice _ => .refl notice

private theorem Notice.SameButText.covers {one two : Notice} (alike : one.SameButText two)
    (moment : Instant) : one.covers moment = two.covers moment := by
  have same := alike.interval
  unfold Notice.covers
  generalize one.interval = first, two.interval = second at same ⊢
  cases first with
  | error error =>
    cases second with
    | error error' => rfl
    | ok period => cases same
  | ok period =>
    cases second with
    | error error => cases same
    | ok period' =>
      cases same
      rfl

private theorem Notice.SameButText.project {one two : Notice} (alike : one.SameButText two) :
    one.project.SameButText two.project where
  morning := alike.status
  afternoon := alike.status
  finished := rfl
  firstReceived := rfl
  lastReceived := rfl
  morningText := alike.statusText
  afternoonText := alike.statusText
  tel := alike.tel
  reportedBy := rfl

/-- The first notice that covers the moment stands at the same place in both lists. -/
private theorem Notice.SameButText.find?_covers {one two : List Notice}
    (alike : List.Forall₂ Notice.SameButText one two) (moment : Instant) :
    Option.Rel Notice.SameButText (one.find? (·.covers moment)) (two.find? (·.covers moment)) := by
  induction alike with
  | nil => exact .none
  | @cons first second _ _ same _ ih =>
    rw [List.find?_cons, List.find?_cons, same.covers moment]
    cases second.covers moment with
    | true => exact .some same
    | false => exact ih

end Whereabouts

namespace Whereabouts.Page

open Whereabouts.Text Whereabouts.Calendar

/-! ### Placeholders -/

/-- What follows the contact number: who reported the absence, if anybody did. -/
def reportNote (reporter? : Option String) : List Char :=
  match reporter? with
  | none => []
  | some reporter =>
    if reporter = "" then []
    else "][".toList ++ escape ("不在連絡：".toList ++ reporter.toList)

private theorem escaped_reportNote (reporter? : Option String) :
    Escaped (reportNote reporter?) := by
  unfold reportNote
  split
  · exact .nil
  · split
    · exact .nil
    · have brackets : Escaped "][".toList := (Escaped.nil.plain (by decide) (by decide)).plain
        (by decide) (by decide)
      exact brackets.append (escaped_escape _)

/-- The text between the brackets is the number, or what the template has there. -/
private theorem filled_eq {rest : List Char} {found : Placeholder} (stands : found.StandsIn rest)
    (cell : Cell) :
    filled rest cell = found.before ++ '[' ::
      ((cell.tel.map fun tel => escape tel.toList).getD found.inside ++
        reportNote cell.reportedBy) ++ ']' :: found.after := by
  unfold filled
  cases reported : cell.reportedBy with
  | none => simp [reportNote, stands.embed_eq]
  | some reporter =>
    -- A reporter without a name is not mentioned.
    by_cases empty : reporter = ""
    · simp [reportNote, empty, stands.embed_eq]
    · simp [reportNote, empty, stands.embedPair_eq]

private theorem filled_of_not_opens {rest : List Char} (without : ¬ Opens rest) (cell : Cell) :
    filled rest cell = rest := by
  unfold filled
  split
  · split
    · exact embed_of_not_opens without _
    · exact embedPair_of_not_opens without _ _
  · exact embed_of_not_opens without _

/-! ### Cells in outline -/

section Cells

variable {α : Type} {alike : α → Prop}

private theorem Outlined.cells {content : α → List Char} (outlined : Outlined alike content)
    (slot : Slot) (style : String) : Outlined alike fun one => cells slot style (content one) :=
  ((Outlined.fixed _).append outlined).append (.fixed endLine)

/-- What takes the place of a placeholder stands between the same two texts. -/
private theorem Outlined.inBrackets {content : α → List Char} (outlined : Outlined alike content)
    (found : Placeholder) :
    Outlined alike fun one => found.before ++ '[' :: content one ++ ']' :: found.after := by
  refine (((Outlined.fixed (found.before ++ ['['])).append outlined).append
    (.fixed (']' :: found.after))).congr fun one _ => ?_
  simp

private theorem outlined_embed (source : List Char) (value : α → List Char) :
    Outlined alike fun one => embed source (some (escape (value one))) := by
  rcases standsIn_or_not_opens source with ⟨found, stands⟩ | without
  · have escaped : Outlined alike fun one => escape (value one) :=
      .place fun one _ => escaped_escape (value one)
    refine (escaped.inBrackets found).congr fun one _ => ?_
    rw [stands.embed_eq, Option.getD_some]
  · exact (Outlined.fixed source).congr fun one _ => embed_of_not_opens without _

private theorem outlined_halfDay (name : String) (remark : α → Option String) :
    Outlined alike fun one => halfDay name (remark one) := by
  let shown (one : α) : List Char :=
    match remark one with
    | none => ['-']
    | some text => escape (text.toList.take remarkLength)
  have place : Outlined alike shown := by
    apply Outlined.place
    intro one _
    dsimp only [shown]
    split
    · exact Escaped.nil.plain (by decide) (by decide)
    · exact escaped_escape _
  refine ((Outlined.fixed name.toList).append place).congr fun one _ => ?_
  unfold halfDay
  dsimp only [shown]
  cases remark one <;> rfl

private theorem outlined_personText (person : Person) : Outlined person.SameButText personText := by
  have fixed (text : List Char) : Outlined person.SameButText fun _ => text := .fixed text
  have morning : Outlined person.SameButText fun other => halfDay "AM" other.morningText :=
    outlined_halfDay "AM" _
  have afternoon : Outlined person.SameButText fun other => halfDay "PM" other.afternoonText :=
    outlined_halfDay "PM" _
  -- Everything behind the half days is told by what the records have in common.
  have behind := fixed (receivedText person.firstReceived ++ receivedText person.lastReceived ++
    (if person.finished then " 勤務終了".toList else []) ++ "）".toList)
  have whole := (((fixed "（".toList).append morning).append ((fixed [' ']).append afternoon)).append
    behind
  refine whole.congr fun other same => ?_
  unfold personText
  rw [← same.firstReceived, ← same.lastReceived, ← same.finished]
  simp only [List.append_assoc]

private theorem outlined_filled (person : Person) (rest : List Char) (now : Instant) :
    Outlined person.SameButText fun other => filled rest (.ofPerson other now) := by
  rcases standsIn_or_not_opens rest with ⟨found, stands⟩ | without
  · have number : Outlined person.SameButText fun other =>
        (other.tel.map fun tel => escape tel.toList).getD found.inside := by
      cases present : person.tel with
      | none =>
        -- The template's own text stays, which may be markup.
        apply (Outlined.fixed found.inside).congr
        intro other same
        have absent : other.tel = none := by simpa [present] using same.tel
        rw [absent]
        rfl
      | some tel =>
        apply Outlined.place
        intro other same
        have there : other.tel.isSome = true := by simpa [present] using same.tel.symm
        obtain ⟨tel', there⟩ := Option.isSome_iff_exists.mp there
        rw [there, Option.map_some, Option.getD_some]
        exact escaped_escape tel'.toList
    have note : Outlined person.SameButText fun other => reportNote other.reportedBy :=
      .place fun other _ => escaped_reportNote other.reportedBy
    refine ((number.append note).inBrackets found).congr fun other _ => ?_
    rw [filled_eq stands]
    rfl
  · exact (Outlined.fixed rest).congr fun other _ => filled_of_not_opens without _

/-- Both cells of a slot that shows this. -/
def shownIn (slot : Slot) (cell : Cell) : List Char :=
  cells slot cell.shown.style (cell.text ++ filled slot.rest cell)

/-- The cells of one record are made in the same way for all records that differ in text. -/
private theorem outlined_ofPerson (person : Person) (slot : Slot) (now : Instant) :
    Outlined person.SameButText fun other => shownIn slot (.ofPerson other now) := by
  have content := (outlined_personText person).append (outlined_filled person slot.rest now)
  apply (content.cells slot (shownAt person now).style).congr
  intro other same
  have shown : shownAt other now = shownAt person now := by
    unfold shownAt
    rw [same.morning, same.afternoon, same.finished]
  rw [shownIn, Cell.ofPerson, shown]

end Cells

/-- What the board shows of a person at the moment. -/
def cellAt (now : Instant) (address : String) (board : Board) : Cell :=
  resolve (board.roster.find? address) (board.notices.forSubject address) now

/-- Where there is no record the newest notice that covers the moment stands in, on every board that
differs in text. -/
private theorem standIn_of_same {board other : Board} {address : String}
    (same : board.SameButText other) (found : board.roster.find? address = none) (now : Instant) :
    Option.Rel Notice.SameButText
        ((board.notices.forSubject address).find? (·.covers now))
        ((other.notices.forSubject address).find? (·.covers now)) ∧
      cellAt now address other =
        match (other.notices.forSubject address).find? (·.covers now) with
        | some notice => .ofPerson notice.project now
        | none => .unknown := by
  refine ⟨Notice.SameButText.find?_covers (same.notices address) now, ?_⟩
  have alike := same.roster address
  rw [found] at alike
  rw [cellAt]
  generalize other.roster.find? address = person? at alike ⊢
  cases alike
  rfl

/-- A cell that shows nothing is the same on all boards that differ in text, and one that shows a
record shows a record that differs in text. -/
private theorem cellAt_cases (board : Board) (now : Instant) (address : String) :
    (∃ person : Person, ∀ other, board.SameButText other →
      ∃ person', person.SameButText person' ∧ cellAt now address other = .ofPerson person' now) ∨
    ∀ other, board.SameButText other → cellAt now address other = .unknown := by
  cases found : board.roster.find? address with
  | some person =>
    refine .inl ⟨person, ?_⟩
    intro other same
    have alike := same.roster address
    rw [found] at alike
    rw [cellAt]
    generalize other.roster.find? address = person? at alike ⊢
    cases alike with
    | some alike => exact ⟨_, alike, rfl⟩
  | none =>
    cases covered : (board.notices.forSubject address).find? (·.covers now) with
    | some notice =>
      -- The notice stands in at the same place of the other list, with another text.
      refine .inl ⟨notice.project, ?_⟩
      intro other same
      obtain ⟨alike, shows⟩ := standIn_of_same same found now
      rw [covered] at alike
      rw [shows]
      generalize (other.notices.forSubject address).find? (·.covers now) = notice? at alike ⊢
      cases alike with
      | some alike => exact ⟨_, alike.project, rfl⟩
    | none =>
      right
      intro other same
      obtain ⟨alike, shows⟩ := standIn_of_same same found now
      rw [covered] at alike
      rw [shows]
      generalize (other.notices.forSubject address).find? (·.covers now) = notice? at alike ⊢
      cases alike
      rfl

private theorem outlined_statusCells (board : Board) (now : Instant) (slot : Slot) :
    Outlined board.SameButText fun other => statusCells other now slot := by
  have shows (other : Board) (same : board.SameButText other) : statusCells other now slot =
      shownIn slot (cellAt now (slot.holder.onBoard board.domain) other) := by
    rw [same.domain]
    rfl
  rcases cellAt_cases board now (slot.holder.onBoard board.domain) with ⟨person, record⟩ | unknown
  · apply (outlined_ofPerson person slot now).transfer
    intro other same
    obtain ⟨person', alike, shown⟩ := record other same
    exact ⟨person', alike, by rw [shows other same, shown]⟩
  · apply (Outlined.fixed (shownIn slot .unknown)).congr
    intro other same
    rw [shows other same, unknown other same]

private theorem outlined_absenceCells (board : Board) (slot : Slot) :
    Outlined board.SameButText fun other => absenceCells other slot := by
  cases listed : board.notices.forSubject (slot.holder.onBoard board.domain) with
  | nil =>
    -- No notice is listed on any of these boards.
    refine (Outlined.fixed (cells slot "style='background:white;'"
      (embed slot.rest (some (escape "不在予定なし".toList))))).congr fun other same => ?_
    have alike := same.notices (slot.holder.onBoard board.domain)
    rw [listed] at alike
    rw [absenceCells, ← same.domain, List.forall₂_nil_left_iff.mp alike]
  | cons notice notices =>
    -- Some are listed on all of them, and the summaries are escaped when they have been joined.
    let summaries (other : Board) := joinWith ", ".toList
      ((other.notices.forSubject (slot.holder.onBoard other.domain)).map fun notice =>
        notice.summary.toList)
    refine ((outlined_embed slot.rest summaries).cells slot "style='background:gainsboro;'").congr
      fun other same => ?_
    have alike := same.notices (slot.holder.onBoard board.domain)
    rw [listed] at alike
    obtain ⟨notice', notices', _, _, listed'⟩ := List.forall₂_cons_left_iff.mp alike
    dsimp only [summaries]
    rw [absenceCells, ← same.domain, listed']

/-! ### Pages in outline -/

private theorem outlined_page (view : View) (template : String) (board : Board)
    (context : Context) :
    Outlined board.SameButText fun other => (view.page template other context).toList := by
  have filled (slot : Slot) :
      Outlined board.SameButText fun other => view.fill other context slot := by
    cases view with
    | status kind => exact outlined_statusCells board context.now slot
    | absences => exact outlined_absenceCells board slot
  have written (piece : Piece) : Outlined board.SameButText fun other =>
      renderPiece (view.header context) (view.fill other context) piece := by
    cases piece with
    | line text => exact .fixed _
    | bodyLine text => exact .fixed _
    | slot slot => exact filled slot
  have outlined : Outlined board.SameButText fun other => (pieces template.toList).flatMap
      (renderPiece (view.header context) (view.fill other context)) :=
    .flatMap fun piece _ => written piece
  apply outlined.congr
  intro other _
  rw [view.page_eq_render, String.toList_ofList, render]

/-- The markup of a page does not depend on text from mail: it is the same for two boards that differ
in such text alone. There is an outline that the pages of all such boards fill, and in its places
stands text without markup in which every ampersand begins an entity. -/
theorem mail_text_is_inert (view : View) (template : String) (context : Context) {one two : Board}
    (alike : one.SameButText two) :
    markupOf (view.page template one context).toList =
        markupOf (view.page template two context).toList ∧
      ∃ outline, ∀ board, one.SameButText board →
        Fills outline (view.page template board context).toList := by
  obtain ⟨outline, fills⟩ := outlined_page view template one context
  exact ⟨(fills one (.refl one)).markupOf_eq (fills two alike), outline, fills⟩

/-- A board with a record of Bob and a notice about Carol. -/
def boardWith (tel reporter reason period : String) : Board :=
  let bob : Person := { Person.blank with morningText := some reason, tel := some tel }
  let notice : Notice := {
    reportedAt := .startOfDay .epoch
    reporter := reporter
    subject := "carol@example.com"
    period := period
    status := .vacation
    statusText := some reason
    tel := none }
  { Board.new "example.com" with
    roster := Table.empty.insert "bob@example.com" bob
    notices := ⟨.add .empty notice, Table.empty.insert notice.subject [notice]⟩ }

theorem mail_text_is_inert_of_tags :
    let plain := boardWith "1" "eve" "ill" "1970/01/02"
    let tagged := boardWith "<b>&" "" "'\">" "1970-01-02"
    let template := "<body>\n<td>Bob</td>\n<td>[bob][内線 <i>2</i>]</td>"
    let context : Context := ⟨.startOfDay .epoch, "manual.html", 5⟩
    plain.SameButText tagged ∧
      markupOf (View.page (.status .live) template plain context).toList =
        markupOf (View.page (.status .live) template tagged context).toList := by
  intro plain tagged template context
  have period : (Period.parse "1970/01/02").toOption = (Period.parse "1970-01-02").toOption := by
    decide
  have alike : plain.SameButText tagged := by
    refine ⟨rfl, fun address => ?_, fun subject => ?_⟩
    · simp only [plain, tagged, boardWith, Table.find?_insert, Table.find?_empty]
      split
      · exact .some ⟨rfl, rfl, rfl, rfl, rfl, rfl, rfl, rfl, rfl⟩
      · exact .none
    · simp only [plain, tagged, boardWith, NoticeIndex.forSubject, Table.find?_insert,
        Table.find?_empty]
      split
      · exact .cons ⟨rfl, rfl, period, rfl, rfl, rfl⟩ .nil
      · exact .nil
  exact ⟨alike, (mail_text_is_inert (.status .live) template context alike).1⟩

end Whereabouts.Page
