import Whereabouts.Proofs.Address
import Whereabouts.Proofs.Mail.Bodies
import Whereabouts.Proofs.Mail.Drafts
import Whereabouts.Proofs.Mail.Ownership
/-!
# Mail that reports an absence

## Main result

`report_is_read_back`: a body that reports an absence in four fields, in whatever order and layout,
files the notice that the fields tell, and no other, if it names somebody and its period can be read;
otherwise it leaves the notices alone.

## Strategy

1. The marker is confirmed by whichever field comes first, so the request has all four of them.
2. Each label stands on one line, so any order of the lines gives the same draft.
3. The notice of a draft is valid just if the name can be completed to an address and the period can
   be read, and registering it files it or does nothing.
-/
namespace Whereabouts.Mail

open Whereabouts.Text Whereabouts.Calendar Request

/-! ### Notices of drafts -/

/-- Whom the draft is about, if it is about anybody. -/
def Draft.subject? (draft : Draft) (domain : String) : Option String :=
  draft.person.bind fun name => Address.complete? domain (String.ofList name)

theorem Draft.isValid_toNotice {draft : Draft} {domain sender : String} {received : Instant} :
    (draft.toNotice domain sender received).isValid = true ↔
      (draft.subject? domain).isSome = true ∧
        ∃ period, Period.parse (String.ofList draft.period) = .ok period := by
  have named : (draft.subject? domain).getD "" ≠ "" ↔ (draft.subject? domain).isSome = true := by
    -- A notice about nobody has an empty subject, and no address is empty.
    cases found : draft.subject? domain with
    | none => simp
    | some subject =>
      obtain ⟨name, _, completed⟩ := Option.bind_eq_some_iff.mp found
      exact iff_of_true (Address.ne_empty_of_complete? completed) rfl
  have read : (Period.parse (String.ofList draft.period)).toBool = true ↔
      ∃ period, Period.parse (String.ofList draft.period) = .ok period := by
    cases Period.parse (String.ofList draft.period) <;> simp [Except.toBool]
  rw [← named, ← read, Notice.isValid, Bool.and_eq_true, decide_eq_true_iff]
  rfl

/-! ### Reports -/

/-- The values of the four fields of a report. -/
structure Report where
  person : List Char
  period : List Char
  reason : List Char
  tel : List Char

/-- A value that can stand in brackets on a line, in the code points that are chosen for the charset. -/
structure IsPlain (value : List Char) : Prop where
  closed : ']' ∉ value
  short : '\r' ∉ value ∧ '\n' ∉ value
  chosen : unify value = value

/-- The value without colons before it and blanks around it. -/
def stripped (value : List Char) : List Char := trimWhile isFieldBlank (value.dropWhile isColon)

namespace Report

variable (report : Report)

def lines : List (List Char) :=
  [fieldLine .person report.person, fieldLine .period report.period,
    fieldLine .reason report.reason, fieldLine .absenceTel report.tel]

structure Plain : Prop where
  person : IsPlain report.person
  period : IsPlain report.period
  reason : IsPlain report.reason
  tel : IsPlain report.tel

/-- Somebody is named and the period can be read. -/
def IsComplete : Prop :=
  (∃ c ∈ stripped report.person, isBlank c = false) ∧
    ∃ period, Period.parse (String.ofList (stripped report.period)) = .ok period

/-- The notice about the subject that the owner of the mail files. -/
def notice (subject owner : String) (sentAt : Instant) : Notice where
  reportedAt := sentAt
  reporter := Address.localPart owner
  subject := subject
  period := String.ofList (stripped report.period)
  status := classify (inBrackets report.reason)
  statusText := some (String.ofList report.reason)
  tel := some (String.ofList report.tel)

def draft : Draft where
  person := some (stripped report.person)
  period := stripped report.period
  status := classify (inBrackets report.reason)
  statusText := some (String.ofList report.reason)
  tel := some (String.ofList report.tel)

end Report

/-! ### Lines of a report -/

section Field

variable {value : List Char}

private theorem IsPlain.fieldValue_eq (plain : IsPlain value) :
    fieldValue (inBrackets value) = stripped value := by
  rw [fieldValue, bracketText_inBrackets plain.closed, stripped]

private theorem IsPlain.bracketString_eq (plain : IsPlain value) :
    bracketString (inBrackets value) = String.ofList value := by
  rw [bracketString, bracketText_inBrackets plain.closed]

private theorem IsPlain.isLine (plain : IsPlain value) (label : Label) :
    IsLine (fieldLine label value) where
  written := by simp [fieldLine, inBrackets]
  short := by
    have labels : IsLine label.text.toList := by cases label <;> decide
    intro c member
    rcases List.mem_append.mp member with inLabel | behind
    · exact labels.short c inLabel
    · simp only [inBrackets, List.mem_cons, List.mem_append, List.not_mem_nil, or_false] at behind
      rcases behind with rfl | inside | rfl
      · rfl
      · -- The value has no break, so none of its characters is one.
        have noReturn : c ≠ '\r' := fun same => plain.short.1 (same ▸ inside)
        have noFeed : c ≠ '\n' := fun same => plain.short.2 (same ▸ inside)
        simp [isLineBreak, noReturn, noFeed]
      · rfl

private theorem IsPlain.unify_fieldLine (plain : IsPlain value) (label : Label) :
    unify (fieldLine label value) = fieldLine label value := by
  have bracketed : unify (inBrackets value) = inBrackets (unify value) := by
    rw [inBrackets, unify, List.map_cons, List.map_append]
    rfl
  rw [fieldLine, unify_append, unify_label, bracketed, plain.chosen]

end Field

private theorem accepts_fieldLine {label : Label} (listed : label ∈ Label.ofAbsence)
    (value : List Char) :
    Command.reportAbsence.accepts (fieldLine label value) = true := by
  refine accepts_iff.mpr ⟨label, listed, ?_⟩
  rw [trimStart_fieldLine]
  exact List.prefix_append _ _

section Report

variable {report : Report} {fields : List (List Char)}

/-- What holds of every field of the absence holds of every line of a report, in any order. -/
private theorem forall_mem_of_perm {motive : List Char → Prop} (plain : report.Plain)
    (order : fields.Perm report.lines)
    (each : ∀ label ∈ Label.ofAbsence, ∀ value, IsPlain value → motive (fieldLine label value)) :
    ∀ line ∈ fields, motive line := by
  intro line member
  have listed := order.mem_iff.mp member
  simp only [Report.lines, List.mem_cons, List.not_mem_nil, or_false] at listed
  rcases listed with rfl | rfl | rfl | rfl
  · exact each .person (by decide) _ plain.person
  · exact each .period (by decide) _ plain.period
  · exact each .reason (by decide) _ plain.reason
  · exact each .absenceTel (by decide) _ plain.tel

/-- The order of the lines does not matter to a draft, as each label stands on one of them. -/
private theorem foldl_of_perm (plain : report.Plain) (order : fields.Perm report.lines) :
    fields.foldl Draft.setField .blank = report.draft := by
  -- The values of a label are kept up to their order, and one value has only one order.
  have only {label : Label} {value : List Char} (alone : valuesOf label report.lines = [value]) :
      valuesOf label fields = [value] := by
    have same : (valuesOf label fields).Perm [value] := alone ▸ order.filterMap _
    exact List.perm_singleton.mp same
  have person : valuesOf .person fields = [inBrackets report.person] :=
    only (by simp [valuesOf, Report.lines])
  have period : valuesOf .period fields = [inBrackets report.period] :=
    only (by simp [valuesOf, Report.lines])
  have reason : valuesOf .reason fields = [inBrackets report.reason] :=
    only (by simp [valuesOf, Report.lines])
  have tel : valuesOf .absenceTel fields = [inBrackets report.tel] :=
    only (by simp [valuesOf, Report.lines])
  rw [foldl_draft]
  simp only [Draft.afterLines, person, period, reason, tel, List.map_cons, List.map_nil,
    List.getLastD_cons, List.getLastD_nil]
  rw [plain.person.fieldValue_eq, plain.period.fieldValue_eq, plain.reason.bracketString_eq,
    plain.tel.bracketString_eq]
  rfl

private theorem ofBody_of_report (plain : report.Plain) (order : fields.Perm report.lines)
    {body : String} (laidOut : LaidOut ("[不在連絡]".toList :: fields) body.toList) :
    Request.ofBody body = ⟨.reportAbsence, fields⟩ := by
  have isLine : ∀ line ∈ fields, IsLine line :=
    forall_mem_of_perm plain order fun label _ _ plain => plain.isLine label
  have accepts : ∀ line ∈ fields, Command.reportAbsence.accepts line = true :=
    forall_mem_of_perm plain order fun _ listed value _ => accepts_fieldLine listed value
  have chosen : ∀ line ∈ fields, unify line = line :=
    forall_mem_of_perm plain order fun label _ _ plain => plain.unify_fieldLine label
  have same : fields.map unify = fields :=
    (List.map_congr_left chosen).trans (List.map_id' fields)
  -- There are four lines, so one of them comes first.
  cases fields with
  | nil => cases List.Perm.nil_eq order
  | cons first rest =>
    have asked := ofBody_of_confirmed
      (show ("[不在連絡]", .reportAbsence) ∈ Command.markers by decide) (by decide) laidOut isLine
      (accepts first List.mem_cons_self)
    rwa [same] at asked

end Report

/-! ### One mail -/

private theorem Report.subject?_draft (report : Report) (domain : String) :
    report.draft.subject? domain = Address.complete? domain (String.ofList (stripped report.person)) := by
  rw [Draft.subject?, Report.draft, Option.bind_some]

private theorem Report.isComplete_iff {report : Report} {domain owner : String} {sentAt : Instant} :
    report.IsComplete ↔ (report.draft.toNotice domain owner sentAt).isValid = true := by
  have named : (∃ c ∈ stripped report.person, isBlank c = false) ↔
      (report.draft.subject? domain).isSome = true := by
    rw [report.subject?_draft, Option.isSome_iff_ne_none, ne_eq, Address.complete?_eq_none,
      String.toList_ofList]
    simp
  rw [Draft.isValid_toNotice, ← named]
  rfl

private theorem Report.toNotice_draft {report : Report} {domain owner subject : String}
    {sentAt : Instant}
    (completed : Address.complete? domain (String.ofList (stripped report.person)) = some subject) :
    report.draft.toNotice domain owner sentAt = report.notice subject owner sentAt := by
  have about : (report.draft.person.bind fun name =>
      Address.complete? domain (String.ofList name)) = some subject :=
    (report.subject?_draft domain).trans completed
  rw [Draft.toNotice, about]
  rfl

private theorem applied_of_report {board : Board} {message : Message} {address : String}
    (accepted : vet board.managers message = .accept address) {report : Report}
    (plain : report.Plain) {fields : List (List Char)} (order : fields.Perm report.lines)
    (laidOut : LaidOut ("[不在連絡]".toList :: fields) message.body.toList) :
    let owner := board.alternates.resolve address
    let registered := board.notices.register
      (report.draft.toNotice board.domain owner message.sentAt)
    (interpret board message).2 = .applied owner .reportAbsence ⟨registered.2, false⟩ ∧
      (interpret board message).1.notices = registered.1 := by
  intro owner registered
  have asked := ofBody_of_report plain order laidOut
  have drafted := foldl_of_perm plain order
  simp only [interpret, accepted, asked, applyRequest, fileNotice, drafted]
  exact ⟨rfl, rfl⟩

/-- A mail that reports an absence is read back as it was written: it files the notice that its fields
tell behind what the owner's local part had filed about that subject, and nothing else, if it names
somebody and its period can be read; otherwise the notices are what they were. -/
theorem report_is_read_back {board : Board} {message : Message} {address : String}
    (accepted : vet board.managers message = .accept address) {report : Report}
    (plain : report.Plain) {fields : List (List Char)} (order : fields.Perm report.lines)
    (laidOut : LaidOut ("[不在連絡]".toList :: fields) message.body.toList) :
    let owner := board.alternates.resolve address
    let before := board.notices
    let after := (interpret board message).1.notices
    (report.IsComplete → ∃ subject, let filed := report.notice subject owner message.sentAt
      board.complete? (String.ofList (stripped report.person)) = some subject ∧
        Registers board message owner filed ∧
        ∀ reporter subject', after.grouped.filedBy? reporter subject' =
          if reporter = filed.reporter ∧ subject' = subject then
            some ((before.grouped.filedBy? reporter subject').getD [] ++ [filed])
          else before.grouped.filedBy? reporter subject') ∧
    (¬ report.IsComplete →
      (interpret board message).2 = .applied owner .reportAbsence .none ∧ after = before) := by
  intro owner before after
  obtain ⟨outcome, left⟩ := applied_of_report accepted plain order laidOut
  have valid : report.IsComplete ↔ _ := @Report.isComplete_iff report board.domain owner message.sentAt
  constructor
  · intro complete
    have named := (Draft.isValid_toNotice.mp (valid.mp complete)).1
    rw [report.subject?_draft] at named
    obtain ⟨subject, completed⟩ := Option.isSome_iff_exists.mp named
    have valid := valid.mp complete
    -- The draft has become the notice that the fields tell.
    rw [Report.toNotice_draft completed] at outcome left valid
    rw [NoticeIndex.register, if_pos valid] at outcome left
    refine ⟨subject, completed, ⟨outcome, valid, rfl, left⟩, fun reporter subject' => ?_⟩
    change (interpret board message).1.notices.grouped.filedBy? reporter subject' = _
    rw [left]
    exact Grouped.filedBy?_add _ _ reporter subject'
  · intro incomplete
    rw [NoticeIndex.register, if_neg (mt valid.mpr incomplete)] at outcome left
    exact ⟨outcome, left⟩

/-- Bob is on leave for two days; the reason has a bracket of its own. -/
def leaveOfBob : Report where
  person := " Bob\u3000".toList
  period := "：2024/05/13～2024/05/14".toList
  reason := "年次[休暇".toList
  tel := "内線 [1".toList

/-- Alice reports it with the person in the last line, and with breaks of several kinds. -/
def mailAboutBob : Message where
  fromHeader := "Alice <alice@example.com>"
  returnPath := none
  sentAt := .startOfDay .epoch
  body := "[不在連絡]\r\n不在時TEL[内線 [1]\n\n不在期間[：2024/05/13～2024/05/14]\n不在理由[年次[休暇]\r\n不在者[ Bob\u3000]\r\n"

theorem report_is_read_back_of_bob :
    let board := Board.new "example.com"
    let fields := [fieldLine .absenceTel leaveOfBob.tel, fieldLine .period leaveOfBob.period,
      fieldLine .reason leaveOfBob.reason, fieldLine .person leaveOfBob.person]
    vet board.managers mailAboutBob = .accept "alice@example.com" ∧ leaveOfBob.Plain ∧
      fields.Perm leaveOfBob.lines ∧
      LaidOut ("[不在連絡]".toList :: fields) mailAboutBob.body.toList ∧ leaveOfBob.IsComplete ∧
      Registers board mailAboutBob "alice@example.com"
        ⟨.startOfDay .epoch, "alice", "bob@example.com", "2024/05/13～2024/05/14", .vacation,
          some "年次[休暇", some "内線 [1"⟩ := by
  intro board fields
  have accepted : vet board.managers mailAboutBob = .accept "alice@example.com" := by decide +kernel
  have plain : leaveOfBob.Plain :=
    ⟨⟨by decide, by decide, by decide⟩, ⟨by decide, by decide, by decide⟩,
      ⟨by decide, by decide, by decide⟩, ⟨by decide, by decide, by decide⟩⟩
  have order : fields.Perm leaveOfBob.lines := by decide +kernel
  have laidOut : LaidOut ("[不在連絡]".toList :: fields) mailAboutBob.body.toList := by
    have breaks {ending : List Char} (all : ending.all isLineBreak = true) :
        ∀ c ∈ ending, isLineBreak c = true := List.all_eq_true.mp all
    have last : LaidOut [fieldLine .person leaveOfBob.person]
        (fieldLine .person leaveOfBob.person ++ "\r\n".toList) := .last _ (breaks rfl)
    have whole := LaidOut.line "[不在連絡]".toList (show "\r\n".toList ≠ [] by decide) (breaks rfl)
      (.line (fieldLine .absenceTel leaveOfBob.tel) (show "\n\n".toList ≠ [] by decide) (breaks rfl)
        (.line (fieldLine .period leaveOfBob.period) (show "\n".toList ≠ [] by decide) (breaks rfl)
          (.line (fieldLine .reason leaveOfBob.reason) (show "\r\n".toList ≠ [] by decide)
            (breaks rfl) last)))
    exact Eq.mp (congrArg (LaidOut _) (by decide +kernel)) whole
  have valid : (leaveOfBob.draft.toNotice board.domain "alice@example.com"
      (.startOfDay .epoch)).isValid = true := by decide +kernel
  have complete : leaveOfBob.IsComplete := Report.isComplete_iff.mpr valid
  obtain ⟨files, _⟩ := report_is_read_back accepted plain order laidOut
  obtain ⟨subject, named, registers, _⟩ := files complete
  have bob : board.complete? (String.ofList (stripped leaveOfBob.person)) = some "bob@example.com" := by
    decide +kernel
  obtain rfl : subject = "bob@example.com" := Option.some.inj (named.symm.trans bob)
  have own : board.alternates.resolve "alice@example.com" = "alice@example.com" := by decide +kernel
  have filed : leaveOfBob.notice "bob@example.com" "alice@example.com" mailAboutBob.sentAt =
      ⟨.startOfDay .epoch, "alice", "bob@example.com", "2024/05/13～2024/05/14", .vacation,
        some "年次[休暇", some "内線 [1"⟩ := by decide +kernel
  rw [own, filed] at registers
  exact ⟨accepted, plain, order, laidOut, complete, registers⟩

end Whereabouts.Mail
