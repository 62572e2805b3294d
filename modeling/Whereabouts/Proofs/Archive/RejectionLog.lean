import Whereabouts.Proofs.Archive.Calls
import Whereabouts.Proofs.Calendar.Forms
import Whereabouts.Proofs.Mail.Authority
import Whereabouts.Proofs.Text.Lines
/-!
# The log of rejections

## Main result

`log_gives_back_rejections`: whatever the headers of the messages say, the log of their rejections has
one line for each of them in turn, and each line has just three parts, which are the date, the sender
and the return path of the rejection.

## Strategy

The log quotes nothing, so all depends on the parts themselves.

1. A rejection names two addresses, and an address that is found in a header has no comma, no blank
   and no line feed (`plain_of_rejected`).
2. A written date has none of them either, and no other date is written in the same way.
3. Each rejection that is logged adds its line to the file, so by induction the file has all lines.
-/
namespace Whereabouts

open Whereabouts.Text Whereabouts.Calendar Whereabouts.Archive

/-! ### The rejections of a run -/

namespace Mail

/-- What is logged of an outcome on a day. -/
def Outcome.rejection? (today : Date) : Outcome → Option Rejection
  | .rejected sender returnPath => some ⟨today, sender, returnPath⟩
  | .applied _ _ _ | .ignored => none

/-- Messages that are interpreted one after the other on one day. -/
structure Batch where
  today : Date
  board : Board
  messages : List Message

def Batch.rejections (batch : Batch) : List Rejection :=
  (interpretAll batch.board batch.messages).2.filterMap (·.rejection? batch.today)

/-- Each outcome of a run is that of one of its messages on the board that the message met. -/
private theorem exists_met_of_mem {board : Board} {messages : List Message} {outcome : Outcome}
    (member : outcome ∈ (interpretAll board messages).2) :
    ∃ met, ∃ message ∈ messages, (interpret met message).2 = outcome := by
  -- Each message is met by the board that those before it left.
  induction messages generalizing board with
  | nil => cases member
  | cons message messages ih =>
    rcases List.mem_cons.mp member with rfl | later
    · exact ⟨board, message, List.mem_cons_self, rfl⟩
    · obtain ⟨met, message', sent, same⟩ := ih later
      exact ⟨met, message', List.mem_cons_of_mem _ sent, same⟩

/-- A mark that no address has. -/
def IsForeign (mark : Char) : Prop := Address.isAddressChar mark = false ∧ mark ≠ '@'

private theorem not_mem_of_shows {text address : String} (shown : Address.Shows text address)
    {mark : Char} (foreign : IsForeign mark) : mark ∉ address.toList := by
  intro inside
  rcases shown.chars mark inside with belongs | joins
  · rw [foreign.1] at belongs
    cases belongs
  · exact foreign.2 joins

/-- The addresses of a rejection have no such mark, whatever else stood in the headers. -/
private theorem plain_of_rejected {board : Board} {message : Message} {sender returnPath : String}
    (rejected : (interpret board message).2 = .rejected sender returnPath) {mark : Char}
    (foreign : IsForeign mark) : mark ∉ sender.toList ∧ mark ∉ returnPath.toList := by
  obtain ⟨written, ⟨header, _, returns⟩, _⟩ := (rejected_iff board message sender returnPath).mp rejected
  exact ⟨not_mem_of_shows written foreign, not_mem_of_shows returns foreign⟩

private theorem plain_of_mem_rejections {batch : Batch} {rejection : Rejection}
    (member : rejection ∈ batch.rejections) {mark : Char} (foreign : IsForeign mark) :
    mark ∉ rejection.sender.toList ∧ mark ∉ rejection.returnPath.toList := by
  obtain ⟨outcome, happened, logged⟩ := List.mem_filterMap.mp member
  obtain ⟨met, message, _, same⟩ := exists_met_of_mem happened
  cases outcome with
  | rejected sender returnPath =>
    cases logged
    exact plain_of_rejected same foreign
  | applied | ignored => cases logged

end Mail

open Mail

namespace Archive

/-! ### A line -/

/-- The line without its end. -/
def told (rejection : Rejection) : List Char :=
  rejection.date.slashed ++ (", ".toList ++ (rejection.sender.toList ++ (", ".toList ++
    rejection.returnPath.toList)))

private theorem rejectionLine_eq (rejection : Rejection) :
    rejectionLine rejection = told rejection ++ ['\n'] := by
  simp [rejectionLine, told]

/-- The line tells this rejection and no other one. -/
structure Tells (rejection : Rejection) (line : List Char) : Prop where
  parts : splitAtMarks ", ".toList line =
    [rejection.date.slashed, rejection.sender.toList, rejection.returnPath.toList]
  /-- No other date is written like this. -/
  dated : ∀ date : Date, date.slashed = rejection.date.slashed → date = rejection.date
  /-- A date that can be read is read back. -/
  read : rejection.date.InCalendar → Date.ofSlashed? rejection.date.slashed = some rejection.date

section Line

variable {rejection : Rejection}

private theorem not_mem_slashed {mark : Char}
    (other : ¬ (isDigit mark = true ∨ mark = '-' ∨ mark = '+')) (apart : mark ≠ '/')
    (date : Date) : mark ∉ date.slashed :=
  Date.not_mem_written (by simpa using apart) other date

private theorem tells_told (sender : ',' ∉ rejection.sender.toList)
    (returnPath : ',' ∉ rejection.returnPath.toList) : Tells rejection (told rejection) where
  parts := by
    have date : ',' ∉ rejection.date.slashed := not_mem_slashed (by decide) (by decide) _
    have mark : ", ".toList = [',', ' '] := rfl
    -- Each part ends at the first mark behind it, as it has no comma itself.
    rw [told, mark, splitAtMarks_append date, splitAtMarks_append sender,
      splitAtMarks_of_plain returnPath]
  dated _ same := Date.written_injective ['/'] same
  read := Date.ofSlashed?_slashed

private theorem feed_not_mem_told (sender : '\n' ∉ rejection.sender.toList)
    (returnPath : '\n' ∉ rejection.returnPath.toList) : '\n' ∉ told rejection := by
  have date : '\n' ∉ rejection.date.slashed := not_mem_slashed (by decide) (by decide) _
  simp only [told, List.mem_append, not_or]
  exact ⟨date, by decide, sender, by decide, returnPath⟩

end Line

/-! ### The file -/

/-- Logs the rejections in turn. -/
def logAll (layout : Layout) (rejections : List Rejection) :
    ExceptT ArchiveError (StateM Volume) Unit := rejections.forM (logRejection layout)

/-- Each rejection that was logged has its line in the file, behind those before it. -/
private theorem fileAt?_of_logged {layout : Layout} {rejections : List Rejection}
    {volume volume' : Volume} (absent : volume.fileAt? layout.rejections = none)
    (logged : (logAll layout rejections).run.run volume = pure (.ok (), volume')) :
    (volume'.fileAt? layout.rejections).getD .empty =
      contentOf (rejections.flatMap rejectionLine) := by
  -- This holds between any two rejections.
  let Logged (done : List Rejection) (after : Volume) : Prop :=
    (after.fileAt? layout.rejections).getD .empty = contentOf (done.flatMap rejectionLine)
  have begun : Logged [] volume := by
    change (volume.fileAt? layout.rejections).getD .empty = _
    rw [absent]
    rfl
  refine run_forM (motive := Logged) ?_ begun logged
  intro done rejection before after holds ended
  have changed := (@Call.changeFile_of_make layout (.logRejection rejection) _ _ ended).1
  have file : after.fileAt? layout.rejections = _ :=
    (Tree.fileAt?_changeFile changed layout.rejections).trans (if_pos rfl)
  change (after.fileAt? layout.rejections).getD .empty = _
  rw [file, Option.getD_some, List.flatMap_append, contentOf_append]
  -- What was there before is kept in front of the new line.
  change (before.fileAt? layout.rejections).getD .empty ++ _ = _
  rw [holds, List.flatMap_singleton]

/-- The log of all rejections of any messages has one line for each, in the order in which they
happened, and each line tells its rejection and no other one. -/
theorem log_gives_back_rejections {layout : Layout} {batches : List Batch} {volume volume' : Volume}
    (absent : volume.fileAt? layout.rejections = none)
    (logged : (logAll layout (batches.flatMap Batch.rejections)).run.run volume =
      pure (.ok (), volume')) :
    ∃ log lines, (volume'.fileAt? layout.rejections).getD .empty = contentOf log ∧
      splitOn isLineFeed log = lines ++ [[]] ∧
      List.Forall₂ Tells (batches.flatMap Batch.rejections) lines := by
  have plain (mark : Char) (foreign : IsForeign mark) :
      ∀ rejection ∈ batches.flatMap Batch.rejections,
        mark ∉ rejection.sender.toList ∧ mark ∉ rejection.returnPath.toList := by
    intro rejection member
    obtain ⟨batch, _, inBatch⟩ := List.mem_flatMap.mp member
    exact plain_of_mem_rejections inBatch foreign
  -- With these two the lines come apart, and so do the parts of a line.
  have feed := plain '\n' ⟨by decide, by decide⟩
  have comma := plain ',' ⟨by decide, by decide⟩
  generalize batches.flatMap Batch.rejections = rejections at *
  refine ⟨rejections.flatMap rejectionLine, rejections.map told, fileAt?_of_logged absent logged, ?_, ?_⟩
  · have short : ∀ line ∈ rejections.map told, '\n' ∉ line := by
      intro line member
      obtain ⟨rejection, listed, rfl⟩ := List.mem_map.mp member
      exact feed_not_mem_told (feed rejection listed).1 (feed rejection listed).2
    have ended := splitOn_ended short
    rw [List.flatMap_map] at ended
    rwa [funext rejectionLine_eq]
  · rw [List.forall₂_map_right_iff, List.forall₂_same]
    exact fun rejection listed => tells_told (comma rejection listed).1 (comma rejection listed).2

/-- Someone writes what looks like more lines of the log into the headers. -/
def forged : Batch where
  today := day
  board := Board.new "example.com"
  messages :=
    [⟨"m, n\n2024/05/02, <Mallory@example.org>, bob@example.com", some "<eve@example.net>, x\n",
        .startOfDay day, ""⟩,
      ⟨"alice@example.com", none, .startOfDay day, ""⟩,
      ⟨"carol@example.com", some "2024/05/01, a@b, carol@example.com", .startOfDay day, ""⟩]

theorem log_gives_back_rejections_of_forged :
    ∃ volume', opened.fileAt? (Layout.below "").rejections = none ∧
      (logAll (.below "") ([forged].flatMap Batch.rejections)).run.run opened =
        pure (.ok (), volume') ∧
      [forged].flatMap Batch.rejections = [⟨day, "mallory@example.org", "eve@example.net"⟩,
        ⟨day, "carol@example.com", "a@b"⟩] ∧
      ∃ log lines, (volume'.fileAt? (Layout.below "").rejections).getD .empty = contentOf log ∧
        splitOn isLineFeed log = lines ++ [[]] ∧
        List.Forall₂ Tells ([forged].flatMap Batch.rejections) lines := by
  have absent : opened.fileAt? (Layout.below "").rejections = none :=
    Tree.fileAt?_of_vacant (fresh_opened.vacant .rejections)
  have rejections : [forged].flatMap Batch.rejections =
      [⟨day, "mallory@example.org", "eve@example.net"⟩, ⟨day, "carol@example.com", "a@b"⟩] := by
    decide +kernel
  have succeeded : (Id.run ((logAll (.below "") ([forged].flatMap Batch.rejections)).run.run
      opened)).1 = .ok () := by
    rw [rejections]
    decide +kernel
  have logged := eq_pure_of_fst succeeded
  exact ⟨_, absent, logged, rejections, log_gives_back_rejections absent logged⟩

end Archive

end Whereabouts
