import Mathlib.Data.List.Induction
import Whereabouts.Mail.Interpretation
import Whereabouts.Proofs.Mail.Requests
/-!
# A record after a run of mail

## Main result

`record_after_mail`: after any messages the record at an address holds in each field what was last
written to it by the messages that were applied for that address; all others leave it alone.

## Strategy

1. No label begins another, so each line is a line of one label.
2. The lines of one message leave in a field what the last line with its label says.
3. A message rewrites one record of the roster, and which one does not depend on that record.
4. So a run comes to a fold over the messages of that address, which is taken apart at its last one.
-/
namespace Whereabouts.Mail

open Whereabouts.Text Whereabouts.Calendar

/-- What stands last in two lists, one after the other, is the last of the second one if it has any. -/
theorem getLastD_append {α : Type} (first second : List α) (default : α) :
    (first ++ second).getLastD default = second.getLastD (first.getLastD default) := by
  simp only [List.getLastD_eq_getLast?, List.getLast?_append]
  cases second.getLast? <;> rfl

/-- A computation that can be taken apart between any two lists is the fold of its steps. -/
theorem foldl_eq_of_append {α β : Type} {step : β → α → β} {after : List α → β → β}
    (nothing : ∀ state, after [] state = state)
    (single : ∀ item state, after [item] state = step state item)
    (append : ∀ first second state, after (first ++ second) state = after second (after first state))
    (items : List α) (state : β) : items.foldl step state = after items state := by
  induction items generalizing state with
  | nil => exact (nothing state).symm
  | cons item items ih =>
    rw [List.foldl_cons, ih, ← single, ← append, List.singleton_append]

/-! ### Lines -/

/-- The text after the label, if it begins the line, blanks aside. -/
def valueOf? (label : Label) (line : List Char) : Option (List Char) :=
  afterPrefix? label.text.toList (trimStart line)

/-- The values of the lines that begin with the label, in turn. -/
def valuesOf (label : Label) (lines : List (List Char)) : List (List Char) :=
  lines.filterMap (valueOf? label)

private theorem eq_of_label_isPrefix {one two : Label} :
    one.text.toList <+: two.text.toList → one = two := by
  cases one <;> cases two <;> decide

theorem label_unique {one two : Label} {line value value' : List Char}
    (here : valueOf? one line = some value) (here' : valueOf? two line = some value') : one = two := by
  have opens : one.text.toList <+: trimStart line := ⟨value, (afterPrefix?_eq_some.mp here).symm⟩
  have opens' : two.text.toList <+: trimStart line := ⟨value', (afterPrefix?_eq_some.mp here').symm⟩
  -- Of two beginnings of one line one begins the other.
  rcases List.prefix_or_prefix_of_prefix opens opens' with first | second
  · exact eq_of_label_isPrefix first
  · exact (eq_of_label_isPrefix second).symm

theorem valueOf?_of_readField? {labels : List Label} {line value : List Char} {label : Label}
    (read : readField? labels line = some (label, value)) :
    label ∈ labels ∧ valueOf? label line = some value := by
  induction labels with
  | nil => cases read
  | cons first labels ih =>
    rw [readField?] at read
    split at read
    next here =>
      cases read
      exact ⟨List.mem_cons_self, here⟩
    · obtain ⟨member, here⟩ := ih read
      exact ⟨List.mem_cons_of_mem first member, here⟩

private theorem valueOf?_of_readField?_eq_none {labels : List Label} {line : List Char}
    (read : readField? labels line = none) {label : Label} (member : label ∈ labels) :
    valueOf? label line = none := by
  induction labels with
  | nil => cases member
  | cons first labels ih =>
    rw [readField?] at read
    split at read
    · cases read
    next here =>
      rcases List.mem_cons.mp member with rfl | later
      · exact here
      · exact ih read later

/-- A line is read as the field of its label, whichever label is tried first. -/
theorem valueOf?_eq {labels : List Label} {label : Label} (tried : label ∈ labels)
    (line : List Char) :
    valueOf? label line =
      match readField? labels line with
      | some (other, value) => if label = other then some value else none
      | none => none := by
  cases read : readField? labels line with
  | none => exact valueOf?_of_readField?_eq_none read tried
  | some field =>
    obtain ⟨other, value⟩ := field
    obtain ⟨_, here⟩ := valueOf?_of_readField? read
    dsimp only
    split
    next same => rw [same, here]
    next different =>
      -- A line of two labels would be a line of one.
      by_contra present
      obtain ⟨value', here'⟩ := Option.ne_none_iff_exists'.mp present
      exact different (label_unique here' here)

/-! ### Records after lines -/

/-- The record after these lines: of the lines with one label the last counts. -/
def afterLines (lines : List (List Char)) (person : Person) : Person :=
  let values (label : Label) := valuesOf label lines
  { person with
    morning := ((values .morning).map classify).getLastD person.morning
    morningText :=
      ((values .morning).map fun value => some (bracketString value)).getLastD person.morningText
    afternoon := ((values .afternoon).map classify).getLastD person.afternoon
    afternoonText :=
      ((values .afternoon).map fun value => some (bracketString value)).getLastD
        person.afternoonText
    tel := ((values .tel).map fun value => some (bracketString value)).getLastD person.tel }

private theorem afterLines_append (first second : List (List Char)) (person : Person) :
    afterLines (first ++ second) person = afterLines second (afterLines first person) := by
  simp only [afterLines, valuesOf, List.filterMap_append, List.map_append, getLastD_append]

private theorem afterLines_singleton (line : List Char) (person : Person) :
    afterLines [line] person = setField person line := by
  have value (label : Label) (ofDay : label ∈ Label.ofDay) := valueOf?_eq ofDay line
  -- With each value told by the one field that is read, both sides depend on that field alone.
  simp only [afterLines, valuesOf, List.filterMap_cons, List.filterMap_nil,
    value .morning (by decide), value .afternoon (by decide), value .tel (by decide), setField]
  cases readField? Label.ofDay line with
  | none => rfl
  | some field =>
    obtain ⟨label, value⟩ := field
    cases label <;> rfl

private theorem foldl_setField (lines : List (List Char)) (person : Person) :
    lines.foldl setField person = afterLines lines person :=
  foldl_eq_of_append (fun _ => rfl) afterLines_singleton afterLines_append lines person

/-! ### Records after messages -/

/-- The fields of a message about the sender's own day. -/
def dayFields (message : Message) : List (List Char) :=
  match (Request.ofBody message.body).command with
  | .start | .finish | .fix => (Request.ofBody message.body).fields
  | .clear | .reportAbsence | .withdrawAbsence | .nothing => []

/-- Whether a message says that the day is over. -/
def finishedBy? (message : Message) : Option Bool :=
  match (Request.ofBody message.body).command with
  | .start | .clear => some false
  | .finish => some true
  | .fix | .reportAbsence | .withdrawAbsence | .nothing => none

/-- What the sender's record becomes by one message. -/
def rewritten (message : Message) (before? : Option Person) : Person :=
  setFinished (finishedBy? message)
    (afterLines (dayFields message) (Person.heardFrom message.sentAt before?))

/-- What a record becomes by the messages of its person, if there are any. Mail opens a record, and
each field holds what was last written to it. -/
def recordAfter (before? : Option Person) : (messages : List Message) → Option Person
  | [] => before?
  | first :: rest =>
    let before := before?.getD .blank
    let written := afterLines ((first :: rest).flatMap dayFields) before
    some
      { written with
        finished := ((first :: rest).filterMap finishedBy?).getLastD before.finished
        firstReceived :=
          match before? with
          | none => some first.sentAt
          | some before => before.firstReceived
        lastReceived :=
          match before? with
          | none => rest.getLast?.map (·.sentAt)
          | some _ => (first :: rest).getLast?.map (·.sentAt) }

private theorem setFinished_eq (finished? : Option Bool) (person : Person) :
    setFinished finished? person = { person with finished := finished?.getD person.finished } := by
  cases finished? <;> rfl

private theorem getLastD_finishedBy?_append (messages : List Message) (last : Message)
    (before : Bool) :
    ((messages ++ [last]).filterMap finishedBy?).getLastD before =
      (finishedBy? last).getD ((messages.filterMap finishedBy?).getLastD before) := by
  rw [List.filterMap_append, getLastD_append, List.filterMap_cons, List.filterMap_nil]
  cases finishedBy? last <;> rfl

private theorem afterLines_flatMap_append (messages : List Message) (last : Message)
    (person : Person) :
    afterLines ((messages ++ [last]).flatMap dayFields) person =
      afterLines (dayFields last) (afterLines (messages.flatMap dayFields) person) := by
  rw [List.flatMap_append, afterLines_append, List.flatMap_singleton]

/-- The last of the messages writes into what the others have left. -/
private theorem recordAfter_append (before? : Option Person) (messages : List Message)
    (last : Message) :
    recordAfter before? (messages ++ [last]) =
      some (rewritten last (recordAfter before? messages)) := by
  rw [rewritten, setFinished_eq]
  -- The first message may open the record, and it alone does not count as received later.
  cases messages with
  | nil =>
    have finished := getLastD_finishedBy?_append [] last
    have written := afterLines_flatMap_append [] last
    rw [List.nil_append] at finished written ⊢
    cases before? <;> simp only [recordAfter, finished, written] <;> rfl
  | cons first rest =>
    have finished := getLastD_finishedBy?_append (first :: rest) last
    have written := afterLines_flatMap_append (first :: rest) last
    have final : (first :: rest ++ [last]).getLast? = some last := List.getLast?_concat
    rw [List.cons_append] at finished written final ⊢
    cases before? with
    | none =>
      simp only [recordAfter, finished, written, List.getLast?_concat]
      rfl
    | some before =>
      simp only [recordAfter, finished, written, final]
      rfl

/-- A run of messages for one person rewrites the record again and again. -/
private theorem foldl_rewritten (before? : Option Person) (messages : List Message) :
    messages.foldl (fun person? message => some (rewritten message person?)) before? =
      recordAfter before? messages := by
  induction messages using List.reverseRecOn with
  | nil => rfl
  | append_singleton messages last ih =>
    rw [List.foldl_append, ih, recordAfter_append]
    rfl

/-! ### One message -/

/-- Whose message it was, if it was applied. -/
def Outcome.sender? : Outcome → Option String
  | .applied sender _ _ => some sender
  | .ignored | .rejected _ _ => none

section Step

variable (board : Board) (sender : String) (received : Instant)

private theorem roster_declareDay (fields : List (List Char)) (finished? : Option Bool) :
    (declareDay board sender received fields finished?).1.roster =
      (updateSender board sender received fun person =>
        setFinished finished? (fields.foldl setField person)).roster := by
  rw [declareDay]
  split
  · rfl
  · rfl

private theorem roster_withdrawNotices (fields : List (List Char)) :
    (withdrawNotices board sender fields).1.roster = board.roster := by
  rw [withdrawNotices]
  split
  · rfl
  · rfl

/-- Whatever is asked for, the sender's record is rewritten and no other. -/
theorem roster_applyRequest (message : Message) :
    (applyRequest board sender message.sentAt (.ofBody message.body)).1.roster =
      board.roster.alter sender fun person? => some (rewritten message person?) := by
  have declared (finished? : Option Bool) (finishes : finishedBy? message = finished?)
      (fields : dayFields message = (Request.ofBody message.body).fields) :
      (declareDay board sender message.sentAt (Request.ofBody message.body).fields
          finished?).1.roster =
        board.roster.alter sender fun person? => some (rewritten message person?) := by
    rw [roster_declareDay]
    simp only [updateSender, foldl_setField, rewritten, finishes, fields]
  -- A request that is not about the day has no fields for the record.
  have noted (finished? : Option Bool) (finishes : finishedBy? message = finished?)
      (fields : dayFields message = []) :
      (updateSender board sender message.sentAt (setFinished finished?)).roster =
        board.roster.alter sender fun person? => some (rewritten message person?) := by
    simp only [updateSender, rewritten, finishes, fields]
    rfl
  rw [applyRequest]
  cases asked : (Request.ofBody message.body).command with
  | start => exact declared (some false) (by simp [finishedBy?, asked]) (by simp [dayFields, asked])
  | finish => exact declared (some true) (by simp [finishedBy?, asked]) (by simp [dayFields, asked])
  | fix => exact declared none (by simp [finishedBy?, asked]) (by simp [dayFields, asked])
  | clear => exact noted (some false) (by simp [finishedBy?, asked]) (by simp [dayFields, asked])
  | reportAbsence => exact noted none (by simp [finishedBy?, asked]) (by simp [dayFields, asked])
  | withdrawAbsence =>
    dsimp only
    rw [roster_withdrawNotices]
    exact noted none (by simp [finishedBy?, asked]) (by simp [dayFields, asked])
  | nothing => exact noted none (by simp [finishedBy?, asked]) (by simp [dayFields, asked])

theorem find?_interpret (message : Message) (address : String) :
    (interpret board message).1.roster.find? address =
      if (interpret board message).2.sender? = some address then
        some (rewritten message (board.roster.find? address))
      else board.roster.find? address := by
  rw [interpret]
  split
  · rfl
  · rfl
  next account accepted =>
    -- The mail counts for the person who lists the account it came from.
    simp only [Outcome.sender?, Option.some.injEq, roster_applyRequest, Table.find?_alter]
    by_cases own : address = board.alternates.resolve account
    · subst own
      simp
    · simp [own, Ne.symm own]

end Step

/-! ### A run -/

/-- Those of the messages that are applied for the address, in turn. Whose a message is may depend
on the ones before it. -/
def messagesFor (address : String) (board : Board) (messages : List Message) : List Message :=
  ((messages.zip (interpretAll board messages).2).filter fun entry =>
    entry.2.sender? = some address).map (·.1)

private theorem messagesFor_cons (address : String) (board : Board) (message : Message)
    (messages : List Message) :
    messagesFor address board (message :: messages) =
      if (interpret board message).2.sender? = some address then
        message :: messagesFor address (interpret board message).1 messages
      else messagesFor address (interpret board message).1 messages := by
  rw [messagesFor, interpretAll, List.zip_cons_cons, List.filter_cons]
  split
  next own => rw [if_pos (of_decide_eq_true own)]; rfl
  next other => rw [if_neg (mt decide_eq_true other)]; rfl

/-- After any run of mail each record is the one that the messages for its address wrote. -/
theorem record_after_mail (board : Board) (messages : List Message) (address : String) :
    (interpretAll board messages).1.roster.find? address =
      recordAfter (board.roster.find? address) (messagesFor address board messages) := by
  rw [← foldl_rewritten]
  -- The board goes along, since a message decides whose the later ones are.
  induction messages generalizing board with
  | nil => rfl
  | cons message messages ih =>
    rw [interpretAll, messagesFor_cons]
    dsimp only
    rw [ih, find?_interpret]
    split
    · rfl
    · rfl

end Whereabouts.Mail
