import Whereabouts.Proofs.Mail.AbsenceMail
import Whereabouts.Proofs.Notices.Placement
/-!
# Undoing a report

## Main result

`undone_if_first_named`: a withdrawal with the fields of a report that filed a notice undoes it just if
the first line that names a person names the one whom the notice is about. The notice is about the
person of the last such line, so with two persons the notice stays (`second_person_stays`).

## Strategy

1. Both mails have the same fields, and both are read by the values of the lines that name a person:
   the report by the last one, the withdrawal by the first one.
2. Withdrawing what was filed last takes away the list that it was filed in. If it was the first in
   that list, this is the index before it.
3. Withdrawing about anybody else leaves that list alone.
-/
namespace Whereabouts

namespace NoticeIndex

variable {index : NoticeIndex} {reporter subject : String}

private theorem exists_reset (filed : (index.grouped.filedBy? reporter subject).isSome = true) :
    ∃ rest, index.grouped.withdraw? reporter subject = some rest ∧
      index.reset reporter subject = (ofGrouped rest, true) := by
  cases withdrawn : index.grouped.withdraw? reporter subject with
  | none =>
    rw [withdraw?_eq_none.mp withdrawn] at filed
    cases filed
  | some rest => exact ⟨rest, rfl, by rw [reset, withdrawn]⟩

private theorem filedBy?_reset_of_ne {other : String} (different : other ≠ subject) :
    (index.reset reporter other).1.grouped.filedBy? reporter subject =
      index.grouped.filedBy? reporter subject := by
  rw [reset]
  split
  · rfl
  next rest withdrawn =>
    refine (Grouped.filedBy?_withdraw withdrawn reporter subject).trans (if_neg ?_)
    exact fun here => different here.2.symm

/-- Withdrawing undoes the first notice that a reporter files about a subject. -/
private theorem ofGrouped_withdraw_add (reachable : index.Reachable) {notice : Notice}
    (new : index.grouped.filedBy? notice.reporter notice.subject = none) {rest : Grouped}
    (withdrawn : (index.grouped.add notice).withdraw? notice.reporter notice.subject = some rest) :
    ofGrouped rest = index := by
  -- Neither table has empty lists, so it is enough that the same is filed in both.
  have pruned := reachable.consistent.pruned
  have same : rest = index.grouped := by
    refine ((pruned.add notice).withdraw withdrawn).eq_of_filed pruned fun reporter subject => ?_
    rw [Grouped.filedBy?_withdraw withdrawn, Grouped.filedBy?_add]
    split
    next here => rw [here.1, here.2, new]
    · rfl
  rw [same]
  exact reachable.eq_ofGrouped.symm

/-- Withdraws what the reporter filed about the subject, if there is one. -/
def resetNamed (index : NoticeIndex) (reporter : String) : Option String → NoticeIndex × Bool
  | none => (index, false)
  | some subject => index.reset reporter subject

/-- What becomes of a notice that was just filed when its reporter withdraws about anybody: `left` is
the index then, and `told` is what the withdrawal says about itself. -/
structure Undone (index : NoticeIndex) (notice : Notice) (named? : Option String)
    (left : NoticeIndex) (told : Bool) : Prop where
  gone : left.grouped.filedBy? notice.reporter notice.subject = none ↔ named? = some notice.subject
  told : named? = some notice.subject → told = true
  /-- Without the notice, both views are what they were before it. -/
  first : named? = some notice.subject →
    index.grouped.filedBy? notice.reporter notice.subject = none → left = index
  stays : named? ≠ some notice.subject →
    left.grouped.filedBy? notice.reporter notice.subject =
      (index.grouped.add notice).filedBy? notice.reporter notice.subject

private theorem undone_resetNamed (reachable : index.Reachable) (notice : Notice)
    (named? : Option String) :
    let left := (ofGrouped (index.grouped.add notice)).resetNamed notice.reporter named?
    Undone index notice named? left.1 left.2 := by
  intro left
  have here := Grouped.filedBy?_add_self index.grouped notice
  by_cases same : named? = some notice.subject
  · -- The notice was just filed, so the withdrawal finds the list that it is in.
    subst same
    obtain ⟨rest, withdrawn, reset⟩ :=
      @exists_reset (ofGrouped (index.grouped.add notice)) _ _ (congrArg Option.isSome here)
    have afterwards : left = (ofGrouped rest, true) := reset
    rw [afterwards]
    exact {
      gone := iff_of_true (Grouped.filedBy?_withdraw_self withdrawn) rfl
      told := fun _ => rfl
      first := fun _ new => ofGrouped_withdraw_add reachable new withdrawn
      stays := fun other => absurd rfl other }
  · -- A withdrawal about anybody else, or about nobody, leaves that list alone.
    have stays : left.1.grouped.filedBy? notice.reporter notice.subject =
        (index.grouped.add notice).filedBy? notice.reporter notice.subject := by
      cases named? with
      | none => rfl
      | some other => exact filedBy?_reset_of_ne fun about => same (congrArg some about)
    exact {
      gone := by
        rw [stays, here]
        exact iff_of_false nofun same
      told := fun named => absurd named same
      first := fun named => absurd named same
      stays := fun _ => stays }

end NoticeIndex

namespace Mail

open Text Calendar Request

/-! ### Persons that the fields name -/

/-- The subject that the value of a field names, if it names anybody. -/
def named? (domain : String) (value? : Option (List Char)) : Option String :=
  value?.bind fun value => Address.complete? domain (String.ofList (fieldValue value))

/-- Whom the first of the lines that name a person names. -/
def firstNamed? (domain : String) (fields : List (List Char)) : Option String :=
  named? domain (valuesOf .person fields).head?

/-- Whom the last of the lines that name a person names. -/
def lastNamed? (domain : String) (fields : List (List Char)) : Option String :=
  named? domain (valuesOf .person fields).getLast?

private theorem subject?_foldl (domain : String) (fields : List (List Char)) :
    (fields.foldl Draft.setField .blank).subject? domain = lastNamed? domain fields := by
  rw [foldl_draft, Draft.subject?, lastNamed?, named?, Draft.afterLines]
  simp only [Draft.blank, List.getLastD_eq_getLast?, List.getLast?_map]
  cases (valuesOf .person fields).getLast? <;> simp

private theorem withdrawNotices_eq (board : Board) (sender : String) (fields : List (List Char)) :
    let left := board.notices.resetNamed (Address.localPart sender) (firstNamed? board.domain fields)
    withdrawNotices board sender fields = ({ board with notices := left.1 }, ⟨left.2, false⟩) := by
  have first : (personIn? fields).bind (fun name => board.complete? (String.ofList name)) =
      firstNamed? board.domain fields := by
    simp only [personIn?_eq, firstNamed?, named?, Option.bind_map, Function.comp_def, Board.complete?]
  rw [withdrawNotices, first]
  cases firstNamed? board.domain fields <;> simp only [NoticeIndex.resetNamed, Changes.none]

/-! ### The two mails -/

section Mails

variable {board : Board} {sender : String} {first : List Char} {rest : List (List Char)}
  (isLine : ∀ line ∈ first :: rest, IsLine line)
  (opens : Command.reportAbsence.accepts first = true)

include isLine opens

/-- A report that files a notice files it about the person who is named last. -/
private theorem exists_filed_of_report {report : String}
    (laidOut : LaidOut ("[不在連絡]".toList :: first :: rest) report.toList) {received : Instant}
    (files : (applyRequest board sender received (.ofBody report)).2.notices = true) :
    ∃ notice : Notice, notice.reporter = Address.localPart sender ∧
      lastNamed? board.domain ((first :: rest).map unify) = some notice.subject ∧
      (applyRequest board sender received (.ofBody report)).1.domain = board.domain ∧
      (applyRequest board sender received (.ofBody report)).1.notices =
        .ofGrouped (board.notices.grouped.add notice) := by
  have asked := ofBody_of_confirmed
    (show ("[不在連絡]", .reportAbsence) ∈ Command.markers by decide) (by decide) laidOut isLine opens
  rw [asked] at files ⊢
  have last := subject?_foldl board.domain ((first :: rest).map unify)
  simp only [applyRequest, fileNotice] at files ⊢
  generalize ((first :: rest).map unify).foldl Draft.setField .blank = draft at files last ⊢
  -- Only a valid notice is filed, and a valid one is about somebody.
  have valid : (draft.toNotice board.domain sender received).isValid = true := by
    by_contra invalid
    change (board.notices.register (draft.toNotice board.domain sender received)).2 = true at files
    rw [NoticeIndex.register, if_neg invalid] at files
    cases files
  obtain ⟨subject, about⟩ := Option.isSome_iff_exists.mp (Draft.isValid_toNotice.mp valid).1
  have key : (draft.toNotice board.domain sender received).subject = subject :=
    congrArg (·.getD "") about
  refine ⟨draft.toNotice board.domain sender received, rfl, ?_, rfl, ?_⟩
  · rw [key, ← about, last]
  · change (board.notices.register (draft.toNotice board.domain sender received)).1 = _
    rw [NoticeIndex.register, if_pos valid]

/-- A withdrawal goes by the person who is named first, and without one it does nothing. -/
private theorem notices_of_withdrawal {withdrawal : String}
    (laidOut : LaidOut ("[不在連絡取消]".toList :: first :: rest) withdrawal.toList)
    (received : Instant) :
    let withdrawn := applyRequest board sender received (.ofBody withdrawal)
    let left := board.notices.resetNamed (Address.localPart sender)
      (firstNamed? board.domain ((first :: rest).map unify))
    withdrawn.1.notices = left.1 ∧ withdrawn.2.notices = left.2 := by
  have asked := ofBody_of_confirmed
    (show ("[不在連絡取消]", .withdrawAbsence) ∈ Command.markers by decide) (by decide) laidOut isLine
    opens
  simp only [asked, applyRequest, withdrawNotices_eq]
  exact ⟨rfl, rfl⟩

end Mails

/-- If a report files a notice, a withdrawal with the same fields takes away what the sender's local
part filed about its subject just if the first of the lines that name a person names it; the notice is
about the person of the last of them. If it was the first notice about the subject, both views are then
what they were before the report. Otherwise the notice stays. -/
theorem undone_if_first_named {board : Board} (reachable : board.notices.Reachable) (sender : String)
    (reportedAt withdrawnAt : Instant) {first : List Char} {rest : List (List Char)}
    (isLine : ∀ line ∈ first :: rest, IsLine line)
    (opens : Command.reportAbsence.accepts first = true) {report withdrawal : String}
    (reports : LaidOut ("[不在連絡]".toList :: first :: rest) report.toList)
    (withdraws : LaidOut ("[不在連絡取消]".toList :: first :: rest) withdrawal.toList) :
    let fields := (first :: rest).map unify
    let filed := applyRequest board sender reportedAt (.ofBody report)
    let undone := applyRequest filed.1 sender withdrawnAt (.ofBody withdrawal)
    filed.2.notices = true → ∃ notice : Notice,
      notice.reporter = Address.localPart sender ∧
      lastNamed? board.domain fields = some notice.subject ∧
      filed.1.notices = .ofGrouped (board.notices.grouped.add notice) ∧
      board.notices.Undone notice (firstNamed? board.domain fields)
        undone.1.notices undone.2.notices := by
  intro fields filed undone files
  obtain ⟨notice, own, last, domain, registered⟩ := exists_filed_of_report isLine opens reports files
  refine ⟨notice, own, last, registered, ?_⟩
  obtain ⟨left, told⟩ := @notices_of_withdrawal filed.1 sender first rest isLine opens withdrawal
    withdraws withdrawnAt
  rw [show undone.1.notices = _ from left, show undone.2.notices = _ from told,
    show filed.1.notices = _ from registered, show filed.1.domain = _ from domain, ← own]
  exact NoticeIndex.undone_resetNamed reachable notice _

/-- Alice takes back what she told about Bob, and no notice is left. -/
theorem undone_if_first_named_of_bob :
    let board := Board.new "example.com"
    let fields := ["不在者[bob]".toList, "不在期間[2024/05/13]".toList]
    let report := bodyOf "[不在連絡]" fields
    let withdrawal := bodyOf "[不在連絡取消]" fields
    let filed := applyRequest board "alice@example.com" (.startOfDay .epoch) (.ofBody report)
    let undone := applyRequest filed.1 "alice@example.com" (.endOfDay .epoch) (.ofBody withdrawal)
    board.notices.Reachable ∧ (∀ line ∈ fields, IsLine line) ∧
      Command.reportAbsence.accepts "不在者[bob]".toList = true ∧
      LaidOut ("[不在連絡]".toList :: fields) report.toList ∧
      LaidOut ("[不在連絡取消]".toList :: fields) withdrawal.toList ∧ filed.2.notices = true ∧
      filed.1.notices.grouped.filedBy? "alice" "bob@example.com" ≠ none ∧
      undone.1.notices = board.notices ∧ undone.2.notices = true := by
  intro board fields report withdrawal
  have isLine : ∀ line ∈ fields, IsLine line := by decide
  have opens : Command.reportAbsence.accepts "不在者[bob]".toList = true := by decide
  have reports := laidOut_bodyOf "[不在連絡]" fields
  have withdraws := laidOut_bodyOf "[不在連絡取消]" fields
  have files : (applyRequest board "alice@example.com" (.startOfDay .epoch)
      (.ofBody report)).2.notices = true := by decide +kernel
  have reachable : board.notices.Reachable := .new
  obtain ⟨notice, own, last, registered, outcome⟩ := undone_if_first_named reachable
    "alice@example.com" (.startOfDay .epoch) (.endOfDay .epoch) isLine opens reports withdraws files
  -- One person is named, so the first one and the last one are the same.
  have same : firstNamed? board.domain (fields.map unify) =
      lastNamed? board.domain (fields.map unify) := by decide +kernel
  have new : board.notices.grouped.filedBy? notice.reporter notice.subject = none := rfl
  exact ⟨reachable, isLine, opens, reports, withdraws, files, by decide +kernel,
    outcome.first (same.trans last) new, outcome.told (same.trans last)⟩

/-- A report that names Bob and then Carol is about Carol. A withdrawal with the same fields is about
Bob, so it finds nothing and Carol stays absent. -/
theorem second_person_stays :
    let board := Board.new "example.com"
    let fields := ["不在者[bob]".toList, "不在者[carol]".toList, "不在期間[2024/05/13]".toList]
    let report := bodyOf "[不在連絡]" fields
    let withdrawal := bodyOf "[不在連絡取消]" fields
    let filed := applyRequest board "alice@example.com" (.startOfDay .epoch) (.ofBody report)
    let undone := applyRequest filed.1 "alice@example.com" (.endOfDay .epoch) (.ofBody withdrawal)
    board.notices = .empty ∧ (∀ line ∈ fields, IsLine line) ∧
      Command.reportAbsence.accepts "不在者[bob]".toList = true ∧
      filed.2.notices = true ∧ undone.2.notices = false ∧
      filed.1.notices.grouped.filedBy? "alice" "carol@example.com" ≠ none ∧
      undone.1.notices.grouped.filedBy? "alice" "carol@example.com" =
        filed.1.notices.grouped.filedBy? "alice" "carol@example.com" := by
  decide +kernel

end Mail

end Whereabouts
