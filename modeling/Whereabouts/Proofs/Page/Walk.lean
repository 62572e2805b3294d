import Mathlib.Data.List.Forall2
import Mathlib.Data.List.Induction
import Whereabouts.Page.Render
import Whereabouts.Proofs.Text.Find
/-!
# How a template becomes a page

## Main result

`page_of_split`: the lines of a template split in just one way into single lines and pairs of a name
line and a slot line; each page writes these blocks in their order; and what it writes for a pair
depends on one person only.

## Strategy

1. The walk keeps one line back. It finds the same pieces as a reader who looks at two lines at once,
   since a line that is kept back could as well be read again.
2. That reader cuts the lines by a recursion in which each step passes one line or two.
3. The rule of the split speaks of places instead. Behind a block the places of the slot lines move
   by the lines of that block, so the rule and the recursion allow the same blocks.
-/
namespace Whereabouts.Page

open Whereabouts.Text Whereabouts.Calendar

/-! ### Lines of a template -/

/-- The line has the token of an account or a mail address. -/
def NamesSomebody (line : List Char) : Prop :=
  Address.scanAccount? line ≠ none ∨ Address.scan? line ≠ none

/-- The line opens the body and belongs to nobody. -/
def TakesHeader (line : List Char) : Prop := "<body>".toList <:+: line ∧ ¬ NamesSomebody line

/-- The name is what stands between the first `>` and the last `<` of the line. -/
def NamedBetween (line name : List Char) : Prop :=
  ∃ before after, line = before ++ '>' :: name ++ '<' :: after ∧ '>' ∉ before ∧ '<' ∉ after

/-- The two lines can be a name line and its slot line. -/
structure Pairs (nameLine line : List Char) : Prop where
  somebody : NamesSomebody line
  bracket : '[' ∈ line
  name : ∃ name, NamedBetween nameLine name
  free : ¬ TakesHeader nameLine

/-- What a slot says of the two lines that it comes from. -/
structure Slot.Describes (slot : Slot) (nameLine line : List Char) : Prop where
  holder : holder? line = some slot.holder
  name : NamedBetween nameLine slot.name
  rest : ∃ before after, line = before ++ slot.rest ∧ slot.rest = '[' :: after ∧ '[' ∉ before
  wide : slot.wide = true ↔ "colspan".toList <:+: line

theorem holder?_eq_none {line : List Char} : holder? line = none ↔ ¬ NamesSomebody line := by
  unfold holder? NamesSomebody
  cases Address.scanAccount? line with
  | none => simp
  | some name => simp

theorem opensBody_iff {line : List Char} : opensBody line = true ↔ "<body>".toList <:+: line :=
  contains_iff

private theorem nameIn?_eq_some {line name : List Char} :
    nameIn? line = some name ↔ NamedBetween line name := by
  simp only [nameIn?, Option.bind_eq_bind, Option.bind_eq_some_iff, Prod.exists, splitAt?_eq_some]
  constructor
  · rintro ⟨before, afterTag, ⟨c, rfl, stop, passes⟩, found⟩
    obtain ⟨c', after, rfl, stop', passes'⟩ := beforeLast?_eq_some found
    obtain rfl : c = '>' := by simpa using stop
    obtain rfl : c' = '<' := by simpa using stop'
    have first : '>' ∉ before := by
      intro member
      simpa using passes '>' member
    have last : '<' ∉ after := by
      intro member
      simpa using passes' '<' member
    exact ⟨before, after, by simp, first, last⟩
  · rintro ⟨before, after, rfl, first, last⟩
    refine ⟨before, name ++ '<' :: after, ⟨'>', by simp, rfl, ?_⟩, beforeLast?_append name rfl ?_⟩
    · intro c member
      simpa using ne_of_mem_of_not_mem member first
    · intro c member
      simpa using ne_of_mem_of_not_mem member last

private theorem pair?_eq_some {nameLine line : List Char} {holder : Holder} {slot : Slot}
    (held : holder? line = some holder) :
    Slot.pair? nameLine line holder = some slot ↔ slot.Describes nameLine line := by
  simp only [Slot.pair?, Option.bind_eq_bind, Option.bind_eq_some_iff, Prod.exists,
    nameIn?_eq_some, cut?_singleton, Option.some.injEq]
  constructor
  · rintro ⟨name, named, before, rest, ⟨after, rfl, rfl, passed⟩, rfl⟩
    exact ⟨held, named, ⟨before, after, rfl, rfl, passed⟩, contains_iff⟩
  · rintro ⟨held', named, ⟨before, after, shape, opens, passed⟩, wide⟩
    have same := Option.some.inj (held.symm.trans held')
    have spans : contains "colspan".toList line = slot.wide :=
      Bool.eq_iff_iff.mpr (contains_iff.trans wide.symm)
    refine ⟨slot.name, named, before, slot.rest, ⟨after, opens ▸ shape, opens, passed⟩, ?_⟩
    rw [same, spans]

/-- Two lines have a slot if they can be a pair, the header aside. -/
private theorem exists_describes {nameLine line : List Char} (free : ¬ TakesHeader nameLine) :
    (∃ slot : Slot, slot.Describes nameLine line) ↔ Pairs nameLine line := by
  constructor
  · rintro ⟨slot, held, named, ⟨before, after, shape, opens, _⟩, _⟩
    refine ⟨?_, by simp [shape, opens], ⟨slot.name, named⟩, free⟩
    by_contra nobody
    rw [holder?_eq_none.mpr nobody] at held
    cases held
  · rintro ⟨somebody, bracket, ⟨name, named⟩, _⟩
    have held : holder? line ≠ none := fun nobody => holder?_eq_none.mp nobody somebody
    obtain ⟨holder, held⟩ := Option.ne_none_iff_exists'.mp held
    obtain ⟨before, after, shape, passed⟩ := List.eq_append_cons_of_mem bracket
    let slot : Slot := ⟨holder, name, '[' :: after, contains "colspan".toList line⟩
    exact ⟨slot, held, named, ⟨before, after, shape, rfl, passed⟩, contains_iff⟩

/-! ### The walk, two lines at a time -/

section Pieces

variable {nameLine line : List Char}

/-- A line that is kept back might as well be read again. -/
private theorem piecesFrom_some (free : ¬ TakesHeader line) (lines : List (List Char)) :
    piecesFrom (some line) lines = piecesFrom none (line :: lines) := by
  rw [piecesFrom]
  split
  · rfl
  next nobody =>
    have closed : ¬ opensBody line = true := fun opens =>
      free ⟨opensBody_iff.mp opens, holder?_eq_none.mp nobody⟩
    rw [if_neg closed]
    rfl

private theorem piecesFrom_header (takes : TakesHeader line) (lines : List (List Char)) :
    piecesFrom none (line :: lines) = .bodyLine line :: piecesFrom none lines := by
  rw [piecesFrom, holder?_eq_none.mpr takes.2]
  dsimp only
  rw [if_pos (opensBody_iff.mpr takes.1)]
  rfl

private theorem piecesFrom_last (free : ¬ TakesHeader line) :
    piecesFrom none [line] = [.line line] := by
  rw [← piecesFrom_some free]
  rfl

private theorem piecesFrom_pair (free : ¬ TakesHeader nameLine) {slot : Slot}
    (describes : slot.Describes nameLine line) (lines : List (List Char)) :
    piecesFrom none (nameLine :: line :: lines) = .slot slot :: piecesFrom none lines := by
  rw [← piecesFrom_some free, piecesFrom, describes.holder]
  dsimp only [Option.bind_some]
  rw [(pair?_eq_some describes.holder).mpr describes]

private theorem piecesFrom_single (free : ¬ TakesHeader nameLine) (alone : ¬ Pairs nameLine line)
    (lines : List (List Char)) :
    piecesFrom none (nameLine :: line :: lines) =
      .line nameLine :: piecesFrom none (line :: lines) := by
  rw [← piecesFrom_some free]
  by_cases takes : TakesHeader line
  · -- The first line is written before the second one takes the header.
    rw [piecesFrom_header takes, piecesFrom, holder?_eq_none.mpr takes.2]
    dsimp only
    rw [if_pos (opensBody_iff.mpr takes.1)]
    rfl
  · -- The second line is kept back in place of the first, also when it has a token but no slot.
    rw [← piecesFrom_some takes, piecesFrom]
    split
    next holder held =>
      have unpaired : Slot.pair? nameLine line holder = none := by
        by_contra paired
        obtain ⟨slot, paired⟩ := Option.ne_none_iff_exists'.mp paired
        exact alone ((exists_describes free).mp ⟨slot, (pair?_eq_some held).mp paired⟩)
      rw [Option.bind_some, unpaired]
      rfl
    next nobody =>
      have closed : ¬ opensBody line = true := fun opens =>
        takes ⟨opensBody_iff.mp opens, holder?_eq_none.mp nobody⟩
      rw [if_neg closed]
      rfl

end Pieces

/-! ### Blocks -/

inductive Block where
  | single (line : List Char)
  | pair (nameLine line : List Char)

def Block.lines : Block → List (List Char)
  | .single line => [line]
  | .pair nameLine line => [nameLine, line]

/-- What a page writes for a block: a single line as it is, with the header below it if it takes one,
or the cells of a pair. -/
inductive Written (header : List Char) (fill : Slot → List Char) : Block → List Char → Prop
  | plain {line : List Char} (free : ¬ TakesHeader line) :
      Written header fill (.single line) (line ++ endLine)
  | opening {line : List Char} (takes : TakesHeader line) :
      Written header fill (.single line) (line ++ endLine ++ header)
  | cells {nameLine line : List Char} {slot : Slot} (describes : slot.Describes nameLine line) :
      Written header fill (.pair nameLine line) (fill slot)

/-- The lines are cut from the top, and two lines that can be a pair are not cut apart. -/
inductive Cut : List (List Char) → List Block → Prop
  | done : Cut [] []
  | pair {nameLine line : List Char} {lines : List (List Char)} {blocks : List Block}
      (pairs : Pairs nameLine line) (rest : Cut lines blocks) :
      Cut (nameLine :: line :: lines) (.pair nameLine line :: blocks)
  | single {line : List Char} {lines : List (List Char)} {blocks : List Block}
      (alone : ∀ next ∈ lines.head?, ¬ Pairs line next) (rest : Cut lines blocks) :
      Cut (line :: lines) (.single line :: blocks)

private theorem Cut.unique {lines : List (List Char)} {one two : List Block} (cut : Cut lines one)
    (cut' : Cut lines two) : one = two := by
  induction cut generalizing two with
  | done =>
    cases cut'
    rfl
  | pair pairs rest ih =>
    cases cut' with
    | pair _ rest' => rw [ih rest']
    | single alone _ => exact absurd pairs (alone _ rfl)
  | single alone rest ih =>
    cases cut' with
    | pair pairs _ => exact absurd pairs (alone _ rfl)
    | single _ rest' => rw [ih rest']

/-- There is a cut of the lines such that the pieces of the walk are written for its blocks. -/
private theorem exists_cut (lines : List (List Char)) : ∃ blocks, Cut lines blocks ∧
    ∀ header fill, List.Forall₂ (Written header fill) blocks
      ((piecesFrom none lines).map (renderPiece header fill)) := by
  induction lines using List.twoStepInduction with
  | nil => exact ⟨[], .done, fun _ _ => .nil⟩
  | singleton line =>
    refine ⟨[.single line], .single nofun .done, fun header fill => ?_⟩
    by_cases takes : TakesHeader line
    · rw [piecesFrom_header takes]
      exact .cons (.opening takes) .nil
    · rw [piecesFrom_last takes]
      exact .cons (.plain takes) .nil
  | cons_cons nameLine line lines behindPair behindLine =>
    by_cases pairs : Pairs nameLine line
    · -- Both lines are passed.
      obtain ⟨blocks, cut, written⟩ := behindPair
      obtain ⟨slot, describes⟩ := (exists_describes pairs.free).mpr pairs
      refine ⟨.pair nameLine line :: blocks, .pair pairs cut, fun header fill => ?_⟩
      rw [piecesFrom_pair pairs.free describes]
      exact .cons (.cells describes) (written header fill)
    · -- Only the first one is, for the second may be a name line.
      obtain ⟨blocks, cut, written⟩ := behindLine line
      have alone : ∀ next ∈ (line :: lines).head?, ¬ Pairs nameLine next := by
        rintro _ ⟨rfl⟩
        exact pairs
      refine ⟨.single nameLine :: blocks, .single alone cut, fun header fill => ?_⟩
      by_cases takes : TakesHeader nameLine
      · rw [piecesFrom_header takes]
        exact .cons (.opening takes) (written header fill)
      · rw [piecesFrom_single takes pairs]
        exact .cons (.plain takes) (written header fill)

/-! ### The rule by places -/

/-- The slot line of a pair stands at the place. -/
def SlotAt (blocks : List Block) (place : Nat) : Prop :=
  ∃ before nameLine line after, blocks = before ++ .pair nameLine line :: after ∧
    place = (before.flatMap Block.lines).length + 1

/-- The line at the place and the one after it can be a pair. -/
def PairsAt (lines : List (List Char)) (place : Nat) : Prop :=
  ∃ nameLine line, lines[place]? = some nameLine ∧ lines[place + 1]? = some line ∧
    Pairs nameLine line

/-- The blocks are the lines in their order, and a line is the slot line of a pair just if it can be
one with the line before it, and that is not the slot line of another pair. -/
structure Splits (lines : List (List Char)) (blocks : List Block) : Prop where
  whole : blocks.flatMap Block.lines = lines
  slots : ∀ place, SlotAt blocks (place + 1) ↔ PairsAt lines place ∧ ¬ SlotAt blocks place

section Places

variable {nameLine line : List Char} {lines : List (List Char)} {blocks : List Block} {place : Nat}

private theorem not_slotAt_zero : ¬ SlotAt blocks 0 := by
  rintro ⟨_, _, _, _, _, impossible⟩
  cases impossible

private theorem not_slotAt_nil : ¬ SlotAt [] place := by
  rintro ⟨_, _, _, _, impossible, _⟩
  simp at impossible

private theorem slotAt_pair_one : SlotAt (.pair nameLine line :: blocks) 1 :=
  ⟨[], nameLine, line, blocks, rfl, rfl⟩

/-- Behind a block the slot lines stand further down by the lines of that block. -/
private theorem slotAt_cons {block : Block} :
    SlotAt (block :: blocks) (place + block.lines.length) ↔ SlotAt blocks place := by
  constructor
  · rintro ⟨before, nameLine, line, after, shape, here⟩
    cases before with
    | nil =>
      -- The slot line of the block itself stands within its lines.
      cases shape
      simp only [Block.lines, List.length_cons, List.length_nil, List.flatMap_nil] at here
      omega
    | cons first before =>
      cases shape
      refine ⟨before, nameLine, line, after, rfl, ?_⟩
      rw [List.flatMap_cons, List.length_append] at here
      omega
  · rintro ⟨before, nameLine, line, after, rfl, rfl⟩
    refine ⟨block :: before, nameLine, line, after, rfl, ?_⟩
    rw [List.flatMap_cons, List.length_append]
    omega

private theorem slotAt_pair :
    SlotAt (.pair nameLine line :: blocks) (place + 2) ↔ SlotAt blocks place :=
  slotAt_cons

private theorem slotAt_single : SlotAt (.single line :: blocks) (place + 1) ↔ SlotAt blocks place :=
  slotAt_cons

private theorem pairsAt_zero :
    PairsAt (line :: lines) 0 ↔ ∃ next ∈ lines.head?, Pairs line next := by
  simp [PairsAt, List.head?_eq_getElem?]

private theorem pairsAt_cons : PairsAt (line :: lines) (place + 1) ↔ PairsAt lines place := Iff.rfl

private theorem Splits.pair (pairs : Pairs nameLine line) (splits : Splits lines blocks) :
    Splits (nameLine :: line :: lines) (.pair nameLine line :: blocks) where
  whole := by
    rw [List.flatMap_cons, splits.whole]
    rfl
  slots
    | 0 => iff_of_true slotAt_pair_one ⟨⟨nameLine, line, rfl, rfl, pairs⟩, not_slotAt_zero⟩
    | 1 => iff_of_false (mt slotAt_pair.mp not_slotAt_zero) fun right => right.2 slotAt_pair_one
    | place + 2 => by rw [slotAt_pair, slotAt_pair, pairsAt_cons, pairsAt_cons, splits.slots place]

private theorem Splits.single (alone : ∀ next ∈ lines.head?, ¬ Pairs line next)
    (splits : Splits lines blocks) : Splits (line :: lines) (.single line :: blocks) where
  whole := by
    rw [List.flatMap_cons, splits.whole]
    rfl
  slots
    | 0 => by
      apply iff_of_false (mt slotAt_single.mp not_slotAt_zero)
      intro right
      obtain ⟨next, here, pairs⟩ := pairsAt_zero.mp right.1
      exact alone next here pairs
    | place + 1 => by rw [slotAt_single, slotAt_single, pairsAt_cons, splits.slots place]

private theorem splits_of_cut (cut : Cut lines blocks) : Splits lines blocks := by
  induction cut with
  | done => exact ⟨rfl, fun place => iff_of_false not_slotAt_nil fun right => by simp [PairsAt] at right⟩
  | pair pairs _ ih => exact ih.pair pairs
  | single alone _ ih => exact ih.single alone

/-- By induction on the blocks: what the rule says behind the first block is the rule for the rest. -/
private theorem cut_of_splits (splits : Splits lines blocks) : Cut lines blocks := by
  induction blocks generalizing lines with
  | nil =>
    obtain rfl := splits.whole
    exact .done
  | cons block blocks ih =>
    obtain ⟨rfl, slots⟩ := splits
    cases block with
    | single line =>
      apply Cut.single
      · -- If it could be a name line, the line after it would have to be a slot line.
        intro next here pairs
        have slot := (slots 0).mpr ⟨pairsAt_zero.mpr ⟨next, here, pairs⟩, not_slotAt_zero⟩
        exact not_slotAt_zero (slotAt_single.mp slot)
      · apply ih
        constructor
        · rfl
        intro place
        have shifted := slots (place + 1)
        rwa [slotAt_single, slotAt_single] at shifted
    | pair nameLine line =>
      -- The second line is a slot line, so the rule lets both be a pair.
      obtain ⟨⟨_, _, first, second, pairs⟩, _⟩ := (slots 0).mp slotAt_pair_one
      cases first
      cases second
      apply Cut.pair pairs
      apply ih
      constructor
      · rfl
      intro place
      have shifted := slots (place + 2)
      rwa [slotAt_pair, slotAt_pair] at shifted

end Places

/-! ### Pages -/

/-- The pages that are made from a template. -/
inductive View where
  | status (kind : Kind)
  | absences

namespace View

def page (view : View) (template : String) (board : Board) (context : Context) : String :=
  match view with
  | status kind => statusPage template board context kind
  | absences => absencePage template board context

/-- What the page has below the line that opens the body. -/
def header (view : View) (context : Context) : List Char :=
  match view with
  | status kind => navigation kind context ++ lastUpdated context ++ legend
  | absences => lastUpdated context

def fill (view : View) (board : Board) (context : Context) : Slot → List Char :=
  match view with
  | status _ => statusCells board context.now
  | absences => absenceCells board

theorem page_eq_render (view : View) (template : String) (board : Board) (context : Context) :
    view.page template board context =
      String.ofList (render template.toList (view.header context) (view.fill board context)) := by
  cases view <;> rfl

/-- Both cells of a slot show one person, the name in one and the slot's own text in the other: the
style and what is set into the text come from the record and the notices under that person's
address. -/
private theorem exists_cells (view : View) (context : Context) :
    ∃ (style : Option Person → List Notice → String)
      (content : Option Person → List Notice → (rest : List Char) → List Char),
    ∀ (board : Board) (slot : Slot),
      let person? := board.roster.find? (slot.holder.onBoard board.domain)
      let notices := board.notices.forSubject (slot.holder.onBoard board.domain)
      view.fill board context slot =
        "      <td ".toList ++ (style person? notices).toList ++ ['>'] ++ slot.name ++
          "</td>".toList ++ endLine ++
        (if slot.wide then "      <td colspan=\"2\" " else "      <td ").toList ++
          (style person? notices).toList ++ ['>'] ++ content person? notices slot.rest ++
          endLine := by
  cases view with
  | status kind =>
    exact ⟨fun person? notices => (resolve person? notices context.now).shown.style,
      fun person? notices rest =>
        let cell := resolve person? notices context.now
        cell.text ++ filled rest cell,
      fun _ _ => rfl⟩
  | absences =>
    refine ⟨fun _ notices => if notices = [] then "style='background:white;'"
        else "style='background:gainsboro;'",
      fun _ notices rest => embed rest (some (escape (if notices = [] then "不在予定なし".toList
        else joinWith ", ".toList (notices.map fun notice => notice.summary.toList)))), ?_⟩
    intro board slot
    dsimp only [fill]
    rw [absenceCells]
    split
    next nothing =>
      rw [nothing, if_pos rfl, if_pos rfl]
      rfl
    next some =>
      rw [if_neg some, if_neg some]
      rfl

end View

/-- The lines of a template split in just one way, whatever is on the board. Every page writes the
blocks of this split, one after the other; and for a pair it writes two cells that show the record
and the notices of one person. -/
theorem page_of_split (template : String) :
    ∃ blocks, (∀ other, Splits (lines template.toList) other ↔ other = blocks) ∧
      (∀ (view : View) (board : Board) (context : Context), ∃ texts,
        List.Forall₂ (Written (view.header context) (view.fill board context)) blocks texts ∧
        view.page template board context = String.ofList texts.flatten) ∧
      ∀ (view : View) (context : Context),
        ∃ (style : Option Person → List Notice → String)
          (content : Option Person → List Notice → (rest : List Char) → List Char),
        ∀ (board : Board) (slot : Slot),
          let person? := board.roster.find? (slot.holder.onBoard board.domain)
          let notices := board.notices.forSubject (slot.holder.onBoard board.domain)
          view.fill board context slot =
            "      <td ".toList ++ (style person? notices).toList ++ ['>'] ++ slot.name ++
              "</td>".toList ++ endLine ++
            (if slot.wide then "      <td colspan=\"2\" " else "      <td ").toList ++
              (style person? notices).toList ++ ['>'] ++ content person? notices slot.rest ++
              endLine := by
  obtain ⟨blocks, cut, written⟩ := exists_cut (lines template.toList)
  refine ⟨blocks, ?_, ?_, View.exists_cells⟩
  · intro other
    constructor
    · intro splits
      exact (cut_of_splits splits).unique cut
    · rintro rfl
      exact splits_of_cut cut
  · intro view board context
    refine ⟨_, written (view.header context) (view.fill board context), ?_⟩
    rw [view.page_eq_render, render, pieces, List.flatMap_def]

end Whereabouts.Page
