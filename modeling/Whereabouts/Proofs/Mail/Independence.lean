import Whereabouts.Proofs.Mail.Records
import Whereabouts.Proofs.Table
/-!
# Messages in either order

## Main result

`either_order`: two messages that are applied for senders with different local parts, and that register
no alternates, may change places. Each has the outcome it had, and the board comes out the same in all
its tables and lists, so no list tells which message came first.

## Strategy

1. A request changes each table by what it finds in that table alone: the roster under the sender, the
   notices under the sender's local part (`Refiling`).
2. Changes under two keys do not meet, and the view by subject is made from the grouped view.
-/
namespace Whereabouts

/-! ### Notices of one reporter -/

/-- A change of what one reporter has filed, as a table by subject. It looks at nothing else, and it
may come to nothing. -/
structure Refiling where
  reporter : String
  refiled? : (subjects? : Option (Table (List Notice))) → Option (Option (Table (List Notice)))

namespace Refiling

def nothing (reporter : String) : Refiling := ⟨reporter, fun _ => none⟩

def filing (notice : Notice) : Refiling where
  reporter := notice.reporter
  refiled? subjects? :=
    if notice.isValid then
      some <| some <| (subjects?.getD .empty).alter notice.subject fun notices? =>
        some (notices?.getD [] ++ [notice])
    else none

def withdrawal (reporter subject : String) : Refiling where
  reporter := reporter
  refiled? subjects? := do
    let subjects ← subjects?
    let _ ← subjects.find? subject
    let rest := subjects.erase subject
    some (if rest.isEmpty then none else some rest)

end Refiling

namespace NoticeIndex

/-- The index after the change, and whether there was any. -/
def refile (index : NoticeIndex) (refiling : Refiling) : NoticeIndex × Bool :=
  match refiling.refiled? (index.grouped.find? refiling.reporter) with
  | none => (index, false)
  | some subjects? => (ofGrouped (index.grouped.alter refiling.reporter fun _ => subjects?), true)

private theorem refile_filing (index : NoticeIndex) (notice : Notice) :
    index.refile (.filing notice) = index.register notice := by
  rw [refile, Refiling.filing, register, Grouped.add, Table.alter_eq]
  cases notice.isValid with
  | true => rfl
  | false => rfl

private theorem refile_withdrawal (index : NoticeIndex) (reporter subject : String) :
    index.refile (.withdrawal reporter subject) = index.reset reporter subject := by
  rw [refile, Refiling.withdrawal, reset, Grouped.withdraw?]
  cases index.grouped.find? reporter with
  | none => rfl
  | some subjects =>
    dsimp only [Option.bind_eq_bind, Option.bind_some]
    cases subjects.find? subject with
    | none => rfl
    | some notices => rfl

private theorem refile_comm (index : NoticeIndex) {one two : Refiling}
    (different : one.reporter ≠ two.reporter) :
    ((index.refile one).1.refile two).2 = (index.refile two).2 ∧
      ((index.refile one).1.refile two).1 = ((index.refile two).1.refile one).1 := by
  -- Neither finds anything else than it would have found before the other.
  cases stays : one.refiled? (index.grouped.find? one.reporter) with
  | none =>
    cases stays' : two.refiled? (index.grouped.find? two.reporter) with
    | none => simp [refile, stays, stays']
    | some subjects? => simp [refile, ofGrouped, stays, stays', Table.find?_alter, different]
  | some subjects? =>
    cases stays' : two.refiled? (index.grouped.find? two.reporter) with
    | none => simp [refile, ofGrouped, stays, stays', Table.find?_alter, different.symm]
    | some subjects'? =>
      have commute := index.grouped.alter_comm different (fun _ => subjects?) fun _ => subjects'?
      simp [refile, ofGrouped, stays, stays', Table.find?_alter, different, different.symm, commute]

end NoticeIndex

namespace Mail

open Whereabouts.Calendar

/-! ### What one message does to each table -/

/-- What a message for the sender does to the notices. -/
def refilingOf (domain sender : String) (message : Message) : Refiling :=
  let request := Request.ofBody message.body
  match request.command with
  | .reportAbsence =>
    .filing ((request.fields.foldl Draft.setField .blank).toNotice domain sender message.sentAt)
  | .withdrawAbsence =>
    match (personIn? request.fields).bind fun name => Address.complete? domain (String.ofList name) with
    | none => .nothing (Address.localPart sender)
    | some subject => .withdrawal (Address.localPart sender) subject
  | .start | .finish | .fix | .clear | .nothing => .nothing (Address.localPart sender)

private theorem reporter_refilingOf (domain sender : String) (message : Message) :
    (refilingOf domain sender message).reporter = Address.localPart sender := by
  rw [refilingOf]
  split
  · rfl
  · split
    · rfl
    · rfl
  all_goals rfl

/-- The alternates that a message registers. -/
def registeredBy (message : Message) : List String := (dayFields message).flatMap alternatesIn

def relisted (table : Alternates) (sender : String) (message : Message) : Alternates :=
  match registeredBy message with
  | [] => table
  | addresses => table.replace sender addresses

/-- The board after a message for the sender, table by table. -/
def afterMessage (board : Board) (sender : String) (message : Message) : Board where
  roster := board.roster.alter sender fun person? => some (rewritten message person?)
  notices := (board.notices.refile (refilingOf board.domain sender message)).1
  alternates := relisted board.alternates sender message
  managers := board.managers
  domain := board.domain

def changesBy (board : Board) (sender : String) (message : Message) : Changes where
  notices := (board.notices.refile (refilingOf board.domain sender message)).2
  alternates := !(registeredBy message).isEmpty

private theorem declareDay_eq (board : Board) (sender : String) (received : Instant)
    (fields : List (List Char)) (finished? : Option Bool) :
    declareDay board sender received fields finished? =
      ({ board with
          roster := (declareDay board sender received fields finished?).1.roster
          alternates :=
            match fields.flatMap alternatesIn with
            | [] => board.alternates
            | addresses => board.alternates.replace sender addresses },
        ⟨false, !(fields.flatMap alternatesIn).isEmpty⟩) := by
  rw [declareDay]
  cases fields.flatMap alternatesIn with
  | nil => rfl
  | cons first rest => rfl

private theorem applyRequest_eq (board : Board) (sender : String) (message : Message) :
    applyRequest board sender message.sentAt (.ofBody message.body) =
      (afterMessage board sender message, changesBy board sender message) := by
  rw [afterMessage, ← roster_applyRequest board sender message, changesBy, refilingOf, relisted,
    registeredBy, dayFields, applyRequest]
  -- The roster is known already; every command changes at most one other table.
  cases (Request.ofBody message.body).command with
  | start => exact declareDay_eq ..
  | finish => exact declareDay_eq ..
  | fix => exact declareDay_eq ..
  | clear => rfl
  | reportAbsence =>
    dsimp only
    rw [NoticeIndex.refile_filing]
    rfl
  | withdrawAbsence =>
    dsimp only
    cases named : (personIn? (Request.ofBody message.body).fields).bind fun name =>
        Address.complete? board.domain (String.ofList name) with
    | none =>
      simp only [withdrawNotices, updateSender, Board.complete?, named]
      rfl
    | some subject =>
      simp only [withdrawNotices, updateSender, Board.complete?, named,
        NoticeIndex.refile_withdrawal]
      rfl
  | nothing => rfl

/-! ### Two messages -/

private theorem interpretAll_pair {board after : Board} {one two : Message}
    {outcome outcome' : Outcome} :
    interpretAll board [one, two] = (after, [outcome, outcome']) ↔
      ∃ between, interpret board one = (between, outcome) ∧
        interpret between two = (after, outcome') := by
  constructor
  · rintro ⟨⟩
    exact ⟨_, rfl, rfl⟩
  · rintro ⟨between, first, second⟩
    simp only [interpretAll, first, second]

theorem interpret_eq_applied {board after : Board} {message : Message} {sender : String}
    {command : Command} {changes : Changes} :
    interpret board message = (after, .applied sender command changes) ↔
      (∃ address, vet board.managers message = .accept address ∧
        board.alternates.resolve address = sender) ∧
      command = (Request.ofBody message.body).command ∧
      after = afterMessage board sender message ∧ changes = changesBy board sender message := by
  rw [interpret]
  cases vet board.managers message with
  | ignore => simp
  | reject sender' returnPath => simp
  | accept address =>
    dsimp only
    rw [applyRequest_eq, Prod.mk.injEq, Outcome.applied.injEq]
    constructor
    · rintro ⟨rfl, rfl, rfl, rfl⟩
      exact ⟨⟨address, rfl, rfl⟩, rfl, rfl, rfl⟩
    · rintro ⟨⟨address', ⟨⟩, rfl⟩, rfl, rfl, rfl⟩
      exact ⟨rfl, rfl, rfl, rfl⟩

section Pair

variable {board : Board} {sender sender' : String} {message message' : Message}

private theorem relisted_of_silent (silent : (changesBy board sender message).alternates = false)
    (table : Alternates) : relisted table sender message = table := by
  have nothing : registeredBy message = [] := by simpa [changesBy] using silent
  rw [relisted, nothing]

private theorem changesBy_afterMessage
    (different : Address.localPart sender ≠ Address.localPart sender') :
    changesBy (afterMessage board sender message) sender' message' =
      changesBy board sender' message' := by
  have apart : (refilingOf board.domain sender message).reporter ≠
      (refilingOf board.domain sender' message').reporter := by
    simpa only [reporter_refilingOf] using different
  have told := (board.notices.refile_comm apart).1
  simp only [changesBy, afterMessage, told]

/-- The second message does the same to what the first has left as to the board before. -/
private theorem afterMessage_comm (different : Address.localPart sender ≠ Address.localPart sender')
    (silent : (changesBy board sender message).alternates = false)
    (silent' : (changesBy board sender' message').alternates = false) :
    afterMessage (afterMessage board sender message) sender' message' =
      afterMessage (afterMessage board sender' message') sender message := by
  have apart : (refilingOf board.domain sender message).reporter ≠
      (refilingOf board.domain sender' message').reporter := by
    simpa only [reporter_refilingOf] using different
  have senders : sender ≠ sender' := ne_of_apply_ne _ different
  simp only [afterMessage, relisted_of_silent silent, relisted_of_silent silent',
    board.roster.alter_comm senders, (board.notices.refile_comm apart).2]

end Pair

/-- Two messages for senders with different local parts that register no alternates have the same
outcomes in either order and leave the same board. -/
theorem either_order {board after : Board} {one two : Message} {sender sender' : String}
    {command command' : Command} {changes changes' : Changes}
    (applied : interpretAll board [one, two] =
      (after, [.applied sender command changes, .applied sender' command' changes']))
    (different : Address.localPart sender ≠ Address.localPart sender')
    (silent : changes.alternates = false) (silent' : changes'.alternates = false) :
    interpretAll board [two, one] =
      (after, [.applied sender' command' changes', .applied sender command changes]) := by
  obtain ⟨between, first, second⟩ := interpretAll_pair.mp applied
  obtain ⟨⟨address, accepted, primary⟩, rfl, rfl, rfl⟩ := interpret_eq_applied.mp first
  obtain ⟨⟨address', accepted', primary'⟩, rfl, rfl, rfl⟩ := interpret_eq_applied.mp second
  rw [changesBy_afterMessage different] at silent'
  -- The alternates are the same before and between, so the senders are, too.
  have stays : relisted board.alternates sender one = board.alternates :=
    relisted_of_silent silent board.alternates
  have stays' : relisted board.alternates sender' two = board.alternates :=
    relisted_of_silent silent' board.alternates
  apply interpretAll_pair.mpr
  refine ⟨afterMessage board sender' two, interpret_eq_applied.mpr ⟨?_, rfl, rfl, ?_⟩,
    interpret_eq_applied.mpr ⟨?_, rfl, ?_, ?_⟩⟩
  · refine ⟨address', accepted', ?_⟩
    rw [← primary', afterMessage, stays]
  · exact changesBy_afterMessage different
  · refine ⟨address, accepted, ?_⟩
    rw [← primary, afterMessage, stays']
  · exact afterMessage_comm different silent silent'
  · exact (changesBy_afterMessage different.symm).symm

/-- Somebody reports at midnight that Carol is on leave for a day. -/
def reportAboutCarol (sender : String) : Message where
  fromHeader := sender ++ "@example.com"
  returnPath := none
  sentAt := .startOfDay .epoch
  body := "[不在連絡]\n不在者[carol]\n不在期間[1970/01/02]\n不在理由[休暇]\n"

/-- The list about Carol goes by the names of the reporters if the reports are equally old. -/
theorem either_order_of_reports :
    let board := Board.new "example.com"
    let both := (interpretAll board [reportAboutCarol "alice", reportAboutCarol "bob"]).1
    Address.localPart "alice@example.com" ≠ Address.localPart "bob@example.com" ∧
      interpretAll board [reportAboutCarol "bob", reportAboutCarol "alice"] =
        (both, [.applied "bob@example.com" .reportAbsence ⟨true, false⟩,
          .applied "alice@example.com" .reportAbsence ⟨true, false⟩]) ∧
      (both.notices.forSubject "carol@example.com").map (·.reporter) = ["alice", "bob"] := by
  intro board both
  have different : Address.localPart "alice@example.com" ≠ Address.localPart "bob@example.com" := by
    decide +kernel
  have applied : (interpretAll board [reportAboutCarol "alice", reportAboutCarol "bob"]).2 =
      [.applied "alice@example.com" .reportAbsence ⟨true, false⟩,
        .applied "bob@example.com" .reportAbsence ⟨true, false⟩] := by
    decide +kernel
  have listed : (both.notices.forSubject "carol@example.com").map (·.reporter) =
      ["alice", "bob"] := by
    decide +kernel
  exact ⟨different, either_order (Prod.ext rfl applied) different rfl rfl, listed⟩

end Mail

end Whereabouts
