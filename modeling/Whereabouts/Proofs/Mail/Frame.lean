import Whereabouts.Proofs.Mail.Records
import Whereabouts.Proofs.Notices.Views
/-!
# What mail leaves alone

## Main result

`changes_only_as_told`: a message changes the board only as its outcome tells. A message that is not
applied changes nothing; one that is applied rewrites its sender's record and at most one other table,
and then in the sender's name alone.

## Strategy

1. `Alters` lists what a request can do besides noting that its sender wrote: nothing, or one of three
   changes, each with the report that goes with it.
2. Each function that serves a request does one of these (`alters_applyRequest`).
3. A view with a notice more, or with a list less, differs at one entry and no other, so the report is
   true: what is said to change comes out different.
-/
namespace Whereabouts

/-! ### Views that differ in one entry -/

namespace Grouped

/-- The views differ in what the reporter filed about the subject, and in nothing else. -/
structure DifferAt (reporter subject : String) (before after : Grouped) : Prop where
  here : after.filedBy? reporter subject ≠ before.filedBy? reporter subject
  elsewhere : ∀ reporter' subject', ¬ (reporter' = reporter ∧ subject' = subject) →
    after.filedBy? reporter' subject' = before.filedBy? reporter' subject'

private theorem DifferAt.ne {reporter subject : String} {before after : Grouped}
    (differ : DifferAt reporter subject before after) : after ≠ before := by
  rintro rfl
  exact differ.here rfl

theorem filedBy?_add_self (grouped : Grouped) (notice : Notice) :
    (grouped.add notice).filedBy? notice.reporter notice.subject =
      some ((grouped.filedBy? notice.reporter notice.subject).getD [] ++ [notice]) := by
  rw [filedBy?_add, if_pos ⟨rfl, rfl⟩]

private theorem differAt_add (grouped : Grouped) (notice : Notice) :
    DifferAt notice.reporter notice.subject grouped (grouped.add notice) where
  here := by
    rw [filedBy?_add_self]
    -- The list is longer by the notice, or there was none.
    cases grouped.filedBy? notice.reporter notice.subject with
    | none => simp
    | some notices => simp
  elsewhere := by
    intro reporter subject other
    rw [filedBy?_add, if_neg other]

private theorem exists_of_withdraw? {grouped rest : Grouped} {reporter subject : String}
    (withdrawn : grouped.withdraw? reporter subject = some rest) :
    ∃ notices, grouped.filedBy? reporter subject = some notices := by
  simp only [withdraw?, Option.bind_eq_bind, Option.bind_eq_some_iff] at withdrawn
  obtain ⟨subjects, found, notices, listed, _⟩ := withdrawn
  refine ⟨notices, ?_⟩
  rw [filedBy?, found, Option.bind_some, listed]

theorem filedBy?_withdraw_self {grouped rest : Grouped} {reporter subject : String}
    (withdrawn : grouped.withdraw? reporter subject = some rest) :
    rest.filedBy? reporter subject = none := by
  rw [filedBy?_withdraw withdrawn, if_pos ⟨rfl, rfl⟩]

private theorem differAt_withdraw {grouped rest : Grouped} {reporter subject : String}
    (withdrawn : grouped.withdraw? reporter subject = some rest) :
    DifferAt reporter subject grouped rest where
  here := by
    obtain ⟨notices, found⟩ := exists_of_withdraw? withdrawn
    rw [filedBy?_withdraw_self withdrawn, found]
    simp
  elsewhere := by
    intro reporter' subject' other
    rw [filedBy?_withdraw withdrawn, if_neg other]

end Grouped

namespace Mail

open Whereabouts.Calendar

/-! ### What requests do -/

/-- The board that a request leaves, with any roster, and what it reports as changed: all else is as
before, or one table is changed for the sender. -/
inductive Alters (sender : String) (before : Board) : Command → Board → Changes → Prop
  | nothing (command : Command) (roster : Roster) :
      Alters sender before command { before with roster } .none
  /-- The alternates that the sender lists take the place of those listed before. -/
  | listed {command : Command} (ofDay : command = .start ∨ command = .finish ∨ command = .fix)
      (roster : Roster) (addresses : List String) :
      Alters sender before command
        { before with roster, alternates := before.alternates.replace sender addresses } ⟨false, true⟩
  /-- A sound notice is filed in the sender's name. -/
  | filed (roster : Roster) {notice : Notice} (valid : notice.isValid = true)
      (own : notice.reporter = Address.localPart sender) :
      Alters sender before .reportAbsence
        { before with roster, notices := .ofGrouped (before.notices.grouped.add notice) } ⟨true, false⟩
  /-- All that the sender filed about one person is withdrawn. -/
  | withdrawn (roster : Roster) {subject : String} {rest : Grouped}
      (found : before.notices.grouped.withdraw? (Address.localPart sender) subject = some rest) :
      Alters sender before .withdrawAbsence { before with roster, notices := .ofGrouped rest }
        ⟨true, false⟩

/-- What is done to a board with another roster is done to this one. -/
private theorem Alters.of_roster {sender : String} {before after : Board} {roster : Roster}
    {command : Command} {changes : Changes}
    (alters : Alters sender { before with roster } command after changes) :
    Alters sender before command after changes := by
  cases alters with
  | nothing command roster => exact .nothing command roster
  | listed ofDay roster addresses => exact .listed ofDay roster addresses
  | filed roster valid own => exact .filed roster valid own
  | withdrawn roster found => exact .withdrawn roster found

section Requests

variable (board : Board) (sender : String) (received : Instant)

private theorem alters_declareDay {command : Command}
    (ofDay : command = .start ∨ command = .finish ∨ command = .fix) (fields : List (List Char))
    (finished? : Option Bool) :
    Alters sender board command (declareDay board sender received fields finished?).1
      (declareDay board sender received fields finished?).2 := by
  rw [declareDay]
  split
  · exact .nothing command _
  · exact .listed ofDay _ _

private theorem alters_fileNotice (fields : List (List Char)) :
    Alters sender board .reportAbsence (fileNotice board sender received fields).1
      (fileNotice board sender received fields).2 := by
  simp only [fileNotice, NoticeIndex.register]
  split
  next valid => exact .filed board.roster valid rfl
  · exact .nothing .reportAbsence board.roster

private theorem alters_withdrawNotices (fields : List (List Char)) :
    Alters sender board .withdrawAbsence (withdrawNotices board sender fields).1
      (withdrawNotices board sender fields).2 := by
  rw [withdrawNotices]
  split
  · exact .nothing .withdrawAbsence board.roster
  next subject _ =>
    simp only [NoticeIndex.reset]
    split
    · exact .nothing .withdrawAbsence board.roster
    next rest found => exact .withdrawn board.roster found

private theorem alters_applyRequest (request : Request) :
    Alters sender board request.command (applyRequest board sender received request).1
      (applyRequest board sender received request).2 := by
  rw [applyRequest]
  cases request.command with
  | start => exact alters_declareDay board sender received (.inl rfl) _ _
  | finish => exact alters_declareDay board sender received (.inr (.inl rfl)) _ _
  | fix => exact alters_declareDay board sender received (.inr (.inr rfl)) _ _
  | clear => exact .nothing .clear _
  -- A request about an absence is applied to the board on which the sender was heard of.
  | reportAbsence => exact (alters_fileNotice _ sender received _).of_roster
  | withdrawAbsence => exact (alters_withdrawNotices _ sender _).of_roster
  | nothing => exact .nothing .nothing _

end Requests

/-! ### What messages do -/

/-- A message is not applied and leaves the board as it is, or it is applied for its sender, of whose
record alone the roster then speaks anew. -/
inductive Interpreted (board : Board) : Board → Outcome → Prop
  | ignored : Interpreted board board .ignored
  | rejected (sender returnPath : String) : Interpreted board board (.rejected sender returnPath)
  | applied {after : Board} {sender : String} {command : Command} {changes : Changes}
      (alters : Alters sender board command after changes)
      (roster : ∀ address, address ≠ sender →
        after.roster.find? address = board.roster.find? address) :
      Interpreted board after (.applied sender command changes)

theorem interpreted_interpret (board : Board) (message : Message) :
    Interpreted board (interpret board message).1 (interpret board message).2 := by
  have roster := find?_interpret board message
  rw [interpret] at roster ⊢
  split
  · exact .ignored
  · exact .rejected _ _
  next account accepted =>
    refine .applied (alters_applyRequest board _ message.sentAt _) fun address other => ?_
    rw [accepted] at roster
    rw [roster address, if_neg]
    exact fun same => other (Option.some.inj same).symm

/-! ### What the reports are worth -/

/-- What the report of changed notices stands for: one list ends in a sound notice more, or one list
that was not empty is gone, both under the sender's name. -/
inductive Refiled (reporter subject : String) (before after : Grouped) : Command → Prop
  | filed {notice : Notice} (valid : notice.isValid = true) (own : notice.reporter = reporter)
      (about : notice.subject = subject)
      (more : after.filedBy? reporter subject =
        some ((before.filedBy? reporter subject).getD [] ++ [notice])) :
      Refiled reporter subject before after .reportAbsence
  | withdrawn {notices : List Notice} (nonempty : notices ≠ [])
      (there : before.filedBy? reporter subject = some notices)
      (gone : after.filedBy? reporter subject = none) :
      Refiled reporter subject before after .withdrawAbsence

section Reports

variable {sender : String} {before after : Board} {command : Command} {changes : Changes}

theorem Alters.managers (alters : Alters sender before command after changes) :
    after.managers = before.managers ∧ after.domain = before.domain := by
  cases alters with
  | nothing => exact ⟨rfl, rfl⟩
  | listed => exact ⟨rfl, rfl⟩
  | filed => exact ⟨rfl, rfl⟩
  | withdrawn => exact ⟨rfl, rfl⟩

private theorem Alters.notices_eq (alters : Alters sender before command after changes)
    (silent : changes.notices = false) : after.notices = before.notices := by
  cases alters with
  | nothing => rfl
  | listed => rfl
  | filed => cases silent
  | withdrawn => cases silent

/-- What is reported as changed is changed, since no list that is kept is empty. -/
private theorem Alters.exists_refiled (alters : Alters sender before command after changes)
    (pruned : before.notices.grouped.Pruned) (told : changes.notices = true) :
    ∃ subject,
      before.notices.grouped.DifferAt (Address.localPart sender) subject after.notices.grouped ∧
      Refiled (Address.localPart sender) subject before.notices.grouped after.notices.grouped
        command := by
  cases alters with
  | nothing => cases told
  | listed => cases told
  | @filed _ notice valid own =>
    refine ⟨notice.subject, ?_, ?_⟩
    · exact own ▸ before.notices.grouped.differAt_add notice
    · exact .filed valid own rfl (own ▸ before.notices.grouped.filedBy?_add_self notice)
  | @withdrawn _ subject rest found =>
    obtain ⟨notices, there⟩ := Grouped.exists_of_withdraw? found
    have nonempty : notices ≠ [] := fun empty => pruned.lists _ subject (empty ▸ there)
    refine ⟨subject, Grouped.differAt_withdraw found, ?_⟩
    exact .withdrawn nonempty there (Grouped.filedBy?_withdraw_self found)

private theorem Alters.alternates_eq (alters : Alters sender before command after changes)
    (silent : changes.alternates = false) : after.alternates = before.alternates := by
  cases alters with
  | nothing => rfl
  | listed => cases silent
  | filed => rfl
  | withdrawn => rfl

private theorem Alters.ofDay (alters : Alters sender before command after changes)
    (told : changes.alternates = true) :
    command = .start ∨ command = .finish ∨ command = .fix := by
  cases alters with
  | nothing => cases told
  | listed ofDay => exact ofDay
  | filed => cases told
  | withdrawn => cases told

end Reports

private theorem Refiled.command {reporter subject : String} {before after : Grouped}
    {command : Command} (refiled : Refiled reporter subject before after command) :
    command = .reportAbsence ∨ command = .withdrawAbsence := by
  cases refiled with
  | filed => exact .inl rfl
  | withdrawn => exact .inr rfl

/-- No message changes the managers or the domain, and one that is not applied changes nothing. One
that is applied rewrites at most its sender's record; it reports just whether it refiled notices, in one
place under the sender's name; and it changes alternates only if it reports so, as requests about the
day may. -/
theorem changes_only_as_told {board : Board} (reachable : board.notices.Reachable)
    (message : Message) :
    let after := (interpret board message).1
    after.managers = board.managers ∧ after.domain = board.domain ∧
    match (interpret board message).2 with
    | .ignored | .rejected _ _ => after = board
    | .applied sender command changes =>
      (∀ address, address ≠ sender → after.roster.find? address = board.roster.find? address) ∧
      (after.notices.grouped ≠ board.notices.grouped ↔ changes.notices = true) ∧
      (changes.notices = false → after.notices = board.notices) ∧
      (changes.notices = true → (command = .reportAbsence ∨ command = .withdrawAbsence) ∧ ∃ subject,
        board.notices.grouped.DifferAt (Address.localPart sender) subject after.notices.grouped ∧
        Refiled (Address.localPart sender) subject board.notices.grouped after.notices.grouped
          command) ∧
      (after.alternates ≠ board.alternates → changes.alternates = true) ∧
      (changes.alternates = true → command = .start ∨ command = .finish ∨ command = .fix) := by
  have interpreted := interpreted_interpret board message
  generalize (interpret board message).1 = after, (interpret board message).2 = outcome at interpreted ⊢
  dsimp only
  cases interpreted with
  | ignored => exact ⟨rfl, rfl, rfl⟩
  | rejected sender returnPath => exact ⟨rfl, rfl, rfl⟩
  | @applied _ sender command changes alters roster =>
    have pruned := reachable.consistent.pruned
    obtain ⟨managers, domain⟩ := alters.managers
    refine ⟨managers, domain, roster, ⟨?_, ?_⟩, alters.notices_eq, ?_, ?_, alters.ofDay⟩
    · intro differ
      by_contra untold
      exact differ (congrArg (·.grouped) (alters.notices_eq (Bool.not_eq_true _ ▸ untold)))
    · intro told
      obtain ⟨_, differ, _⟩ := alters.exists_refiled pruned told
      exact differ.ne
    · intro told
      obtain ⟨subject, differ, refiled⟩ := alters.exists_refiled pruned told
      exact ⟨refiled.command, subject, differ, refiled⟩
    · intro differ
      by_contra untold
      exact differ (alters.alternates_eq (Bool.not_eq_true _ ▸ untold))

/-- Alice withdraws what she filed about Bob. -/
def withdrawal : Message where
  fromHeader := "Alice <alice@example.com>"
  returnPath := none
  sentAt := .startOfDay .epoch
  body := "[不在連絡取消]\n不在者[bob]\n"

theorem changes_only_as_told_of_withdrawal :
    let stored := Grouped.add .empty (NoticeIndex.aboutBob "alice" 9 (by decide) "1970/01/02")
    let board := { Board.new "example.com" with notices := (NoticeIndex.load stored).1 }
    board.notices.Reachable ∧
      (interpret board withdrawal).2 =
        .applied "alice@example.com" .withdrawAbsence ⟨true, false⟩ ∧
      ∃ subject, board.notices.grouped.DifferAt "alice" subject
        (interpret board withdrawal).1.notices.grouped := by
  intro stored board
  have reachable : board.notices.Reachable := .loaded stored
  have outcome : (interpret board withdrawal).2 =
      .applied "alice@example.com" .withdrawAbsence ⟨true, false⟩ := by decide +kernel
  have told := changes_only_as_told reachable withdrawal
  simp only [outcome] at told
  obtain ⟨_, _, _, _, _, refiled, _⟩ := told
  obtain ⟨_, subject, differ, _⟩ := refiled trivial
  have own : Address.localPart "alice@example.com" = "alice" := by decide +kernel
  exact ⟨reachable, outcome, subject, own ▸ differ⟩

end Mail

end Whereabouts
