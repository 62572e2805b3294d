import Whereabouts.Proofs.Mail.Frame
import Whereabouts.Proofs.Mail.Independence
import Whereabouts.Proofs.Notices.Order
/-!
# Whose notices a withdrawal takes away

## Main result

`withdraws_own_local_part`: a message that withdraws takes away notices that were registered by
earlier messages of senders with the same local part, and what all others filed stays in both views.
The sender need not be the one who filed them: the domain does not count (`withdrawn_by_namesake`).

## Strategy

1. `Refiles` lists what a message can do to the notices: nothing, register one, or withdraw a list.
2. So a run of messages is a run of changes of the index (`exists_changes`), and the views agree
   after every message.
3. Every notice on the board is there because an earlier message registered it
   (`allRegistered_interpretAll`), by induction on the messages, the last one taken off.
-/
namespace Whereabouts.Mail

open Whereabouts.Calendar

/-! ### What a message does to the notices -/

/-- The message is applied for the owner and files the notice in the name of the owner's local part. -/
structure Registers (board : Board) (message : Message) (owner : String) (notice : Notice) :
    Prop where
  applied : (interpret board message).2 = .applied owner .reportAbsence ⟨true, false⟩
  valid : notice.isValid = true
  own : notice.reporter = Address.localPart owner
  filed : (interpret board message).1.notices = .ofGrouped (board.notices.grouped.add notice)

/-- The message is applied for the sender and withdraws what the sender's local part filed. -/
structure Withdraws (board : Board) (message : Message) (sender subject : String) (rest : Grouped) :
    Prop where
  applied : (interpret board message).2 = .applied sender .withdrawAbsence ⟨true, false⟩
  found : board.notices.grouped.withdraw? (Address.localPart sender) subject = some rest
  left : (interpret board message).1.notices = .ofGrouped rest

inductive Refiles (board : Board) (message : Message) : Prop
  | kept (same : (interpret board message).1.notices = board.notices)
  | registered {owner : String} {notice : Notice} (registers : Registers board message owner notice)
  | withdrawn {sender subject : String} {rest : Grouped}
      (withdraws : Withdraws board message sender subject rest)

private theorem refiles_interpret (board : Board) (message : Message) : Refiles board message := by
  have interpreted := interpreted_interpret board message
  generalize result : interpret board message = after at interpreted
  obtain ⟨after, outcome⟩ := after
  cases interpreted with
  | ignored => exact .kept (by rw [result])
  | rejected => exact .kept (by rw [result])
  | applied alters =>
    cases alters with
    | nothing => exact .kept (by rw [result])
    | listed => exact .kept (by rw [result])
    | filed _ valid own => exact .registered ⟨by rw [result], valid, own, by rw [result]⟩
    | withdrawn _ found => exact .withdrawn ⟨by rw [result], found, by rw [result]⟩

/-! ### Runs of messages -/

private theorem exists_changes (board : Board) (messages : List Message) :
    ∃ steps : List NoticeIndex.Change,
      (interpretAll board messages).1.notices = steps.foldl NoticeIndex.change board.notices := by
  induction messages using List.reverseRecOn with
  | nil => exact ⟨[], rfl⟩
  | append_singleton messages message ih =>
    obtain ⟨steps, run⟩ := ih
    rw [interpretAll_concat]
    have further (step : NoticeIndex.Change) :
        (interpretAll board messages).1.notices.change step =
          (steps ++ [step]).foldl NoticeIndex.change board.notices := by
      rw [run, List.foldl_append, List.foldl_cons, List.foldl_nil]
    cases refiles_interpret (interpretAll board messages).1 message with
    | kept same => exact ⟨steps, same.trans run⟩
    | @registered owner notice registers =>
      refine ⟨steps ++ [.register notice], ?_⟩
      rw [registers.filed, ← further, NoticeIndex.change, NoticeIndex.register,
        if_pos registers.valid]
    | @withdrawn sender subject rest withdraws =>
      refine ⟨steps ++ [.reset (Address.localPart sender) subject], ?_⟩
      rw [withdraws.left, ← further, NoticeIndex.change, NoticeIndex.reset, withdraws.found]

section Views

variable {board : Board} (nothing : board.notices = .empty) (messages : List Message)

include nothing

theorem reachable_interpretAll : (interpretAll board messages).1.notices.Reachable := by
  obtain ⟨steps, run⟩ := exists_changes board messages
  rw [run, nothing]
  exact NoticeIndex.Reachable.new.foldl steps

theorem underOwnKeys_interpretAll :
    NoticeIndex.UnderOwnKeys (interpretAll board messages).1.notices.grouped := by
  have fresh : NoticeIndex.UnderOwnKeys NoticeIndex.empty.grouped := Grouped.Everywhere.empty
  obtain ⟨steps, run⟩ := exists_changes board messages
  rw [run, nothing]
  exact NoticeIndex.underOwnKeys_foldl fresh steps

end Views

/-! ### Registered notices -/

/-- One of the messages registers the notice for the owner when its turn comes. -/
def RegisteredIn (board : Board) (messages : List Message) (owner : String) (notice : Notice) :
    Prop :=
  ∃ earlier message later, messages = earlier ++ message :: later ∧
    Registers (interpretAll board earlier).1 message owner notice

/-- Whether every notice under a reporter was registered for an owner with that local part. -/
def AllRegistered (board : Board) (messages : List Message) (grouped : Grouped) : Prop :=
  grouped.Everywhere fun reporter _ notice =>
    ∃ owner, Address.localPart owner = reporter ∧ RegisteredIn board messages owner notice

private theorem AllRegistered.concat {board : Board} {messages : List Message} {grouped : Grouped}
    (all : AllRegistered board messages grouped) (message : Message) :
    AllRegistered board (messages ++ [message]) grouped := by
  intro reporter subject notices found notice member
  obtain ⟨owner, name, earlier, registering, later, rfl, registers⟩ :=
    all reporter subject notices found notice member
  exact ⟨owner, name, earlier, registering, later ++ [message], by simp, registers⟩

theorem allRegistered_interpretAll {board : Board} (nothing : board.notices = .empty)
    (messages : List Message) :
    AllRegistered board messages (interpretAll board messages).1.notices.grouped := by
  induction messages using List.reverseRecOn with
  | nil =>
    rw [interpretAll, nothing]
    exact .empty
  | append_singleton messages message ih =>
    -- What was registered before the last message still counts as registered after it.
    have before := ih.concat message
    rw [interpretAll_concat]
    cases refiles_interpret (interpretAll board messages).1 message with
    | kept same => exact same ▸ before
    | @registered owner notice registers =>
      rw [registers.filed]
      exact before.add ⟨owner, registers.own.symm, messages, message, [], rfl, registers⟩
    | withdrawn withdraws =>
      rw [withdraws.left]
      exact before.withdraw withdraws.found

/-! ### Withdrawals -/

/-- On a board that had no notices in the beginning, a message that withdraws in the name of a sender
leaves each list as it was, or takes away one whose notices were all registered by earlier messages of
owners with the sender's local part. The notices under all other names stay in both views. -/
theorem withdraws_own_local_part {board : Board} (nothing : board.notices = .empty)
    (messages : List Message) {message : Message} {sender : String} {changes : Changes}
    (withdraws : (interpret (interpretAll board messages).1 message).2 =
      .applied sender .withdrawAbsence changes) :
    let before := (interpretAll board messages).1.notices
    let after := (interpret (interpretAll board messages).1 message).1.notices
    (∀ reporter subject,
      after.grouped.filedBy? reporter subject = before.grouped.filedBy? reporter subject ∨
      (reporter = Address.localPart sender ∧ after.grouped.filedBy? reporter subject = none ∧
        ∀ notices, before.grouped.filedBy? reporter subject = some notices → ∀ notice ∈ notices,
          ∃ owner, Address.localPart owner = Address.localPart sender ∧
            RegisteredIn board messages owner notice)) ∧
    (∀ reporter subject, reporter ≠ Address.localPart sender →
      after.grouped.filedBy? reporter subject = before.grouped.filedBy? reporter subject) ∧
    ∀ subject,
      (after.forSubject subject).filter (·.reporter ≠ Address.localPart sender) =
        (before.forSubject subject).filter (·.reporter ≠ Address.localPart sender) := by
  intro before after
  have all := allRegistered_interpretAll nothing messages
  have consistent : before.Consistent := (reachable_interpretAll nothing messages).consistent
  have own : NoticeIndex.UnderOwnKeys before.grouped := underOwnKeys_interpretAll nothing messages
  cases refiles_interpret (interpretAll board messages).1 message with
  | kept same =>
    have stays : after = before := same
    rw [stays]
    exact ⟨fun _ _ => .inl rfl, fun _ _ _ => rfl, fun _ => rfl⟩
  | registered registers => cases registers.applied.symm.trans withdraws
  | @withdrawn sender' about rest withdrawal =>
    cases withdrawal.applied.symm.trans withdraws
    have left : after = .ofGrouped rest := withdrawal.left
    have lookup := Grouped.filedBy?_withdraw withdrawal.found
    rw [left]
    refine ⟨fun reporter subject => ?_, fun reporter subject other => ?_, fun subject => ?_⟩
    · -- Only the list of the sender about one subject is gone, and all of it was registered.
      by_cases here : reporter = Address.localPart sender ∧ subject = about
      · obtain ⟨rfl, rfl⟩ := here
        exact .inr ⟨rfl, Grouped.filedBy?_withdraw_self withdrawal.found, all _ _⟩
      · exact .inl ((lookup reporter subject).trans (if_neg here))
    · exact (lookup reporter subject).trans (if_neg fun here => other here.1)
    · -- In the other view the names in the notices tell whose they are, as they are filed under them.
      rw [consistent.forSubject_withdraw own withdrawal.found]
      split
      · rw [List.filter_filter]
        simp
      · rfl

/-- Somebody withdraws what was filed about Carol. -/
def withdrawalAboutCarol (address : String) : Message where
  fromHeader := address
  returnPath := none
  sentAt := .startOfDay .epoch
  body := "[不在連絡取消]\n不在者[carol]\n"

theorem withdraws_own_local_part_of_alice :
    let board := Board.new "example.com"
    let reports := [reportAboutCarol "alice", reportAboutCarol "bob"]
    let before := (interpretAll board reports).1
    let after := (interpret before (withdrawalAboutCarol "alice@example.com")).1.notices
    board.notices = .empty ∧
      (interpret before (withdrawalAboutCarol "alice@example.com")).2 =
        .applied "alice@example.com" .withdrawAbsence ⟨true, false⟩ ∧
      (after.forSubject "carol@example.com").map (·.reporter) = ["bob"] ∧
      (after.forSubject "carol@example.com").filter (·.reporter ≠ "alice") =
        (before.notices.forSubject "carol@example.com").filter (·.reporter ≠ "alice") := by
  intro board reports before after
  have outcome : (interpret before (withdrawalAboutCarol "alice@example.com")).2 =
      .applied "alice@example.com" .withdrawAbsence ⟨true, false⟩ := by decide +kernel
  have own : Address.localPart "alice@example.com" = "alice" := by decide +kernel
  have left : (after.forSubject "carol@example.com").map (·.reporter) = ["bob"] := by
    decide +kernel
  obtain ⟨_, _, others⟩ := withdraws_own_local_part rfl reports outcome
  rw [own] at others
  subst after before
  exact ⟨rfl, outcome, left, others "carol@example.com"⟩

/-- Alice of another organisation withdraws what Alice filed, though no message of hers registered it. -/
theorem withdrawn_by_namesake :
    let board := Board.new "example.com"
    let reports := [reportAboutCarol "alice"]
    let before := (interpretAll board reports).1
    let after := (interpret before (withdrawalAboutCarol "alice@other.org")).1
    board.notices = .empty ∧
      (interpret before (withdrawalAboutCarol "alice@other.org")).2 =
        .applied "alice@other.org" .withdrawAbsence ⟨true, false⟩ ∧
      (∃ notice, before.notices.forSubject "carol@example.com" = [notice] ∧
        ¬ RegisteredIn board reports "alice@other.org" notice) ∧
      after.notices.forSubject "carol@example.com" = [] := by
  intro board reports before after
  have outcome : (interpret before (withdrawalAboutCarol "alice@other.org")).2 =
      .applied "alice@other.org" .withdrawAbsence ⟨true, false⟩ := by decide +kernel
  have filed : ∃ notice, before.notices.forSubject "carol@example.com" = [notice] :=
    List.length_eq_one_iff.mp (by decide +kernel)
  have gone : after.notices.forSubject "carol@example.com" = [] := by decide +kernel
  obtain ⟨notice, only⟩ := filed
  refine ⟨rfl, outcome, ⟨notice, only, ?_⟩, gone⟩
  rintro ⟨earlier, message, later, split, registers⟩
  -- The only message is Alice's, and it is attributed to her address.
  have first : earlier = [] ∧ message = reportAboutCarol "alice" := by
    cases earlier with
    | nil => simp_all [reports]
    | cons _ _ => simp [reports] at split
  obtain ⟨rfl, rfl⟩ := first
  have sender : (interpret (interpretAll board []).1 (reportAboutCarol "alice")).2 ≠
      .applied "alice@other.org" .reportAbsence ⟨true, false⟩ := by decide +kernel
  exact sender registers.applied

end Whereabouts.Mail
