import Whereabouts.Board
import Whereabouts.Mail.Request
/-!
# The effect of a request

Every request notes that the sender wrote. A request about the day sets the fields it names and may
register alternate addresses; one about an absence files or withdraws notices in the name of the
sender's local part. `Changes` tells which of the stored tables came out different.
-/
namespace Whereabouts.Mail

open Whereabouts.Text Whereabouts.Calendar

structure Changes where
  notices : Bool
  alternates : Bool
deriving DecidableEq

def Changes.none : Changes := ⟨false, false⟩

/-! ### The sender's day -/

def bracketString (value : List Char) : String := String.ofList (bracketText value)

/-- The record with one field set; a line that is no field of the day sets nothing. -/
def setField (person : Person) (line : List Char) : Person :=
  match readField? Label.ofDay line with
  | some (.morning, value) =>
    { person with morning := classify value, morningText := some (bracketString value) }
  | some (.afternoon, value) =>
    { person with afternoon := classify value, afternoonText := some (bracketString value) }
  | some (.tel, value) => { person with tel := some (bracketString value) }
  | _ => person

/-- The addresses that an alternates field lists between commas. -/
def alternatesIn (line : List Char) : List String :=
  match readField? Label.ofDay line with
  | some (.alternates, value) =>
    (splitOn (· == ',') (bracketText value)).filterMap fun piece =>
      match trim piece with
      | [] => .none
      | address => some (String.ofList (lower address))
  | _ => []

/-- Sets whether the day is over, if the command says so. -/
def setFinished (finished? : Option Bool) (person : Person) : Person :=
  match finished? with
  | .none => person
  | some finished => { person with finished }

/-- Notes that the sender wrote, and makes the change to the record. -/
def updateSender (board : Board) (sender : String) (received : Instant)
    (change : Person → Person) : Board :=
  { board with
    roster := board.roster.alter sender fun person? =>
      some (change (Person.heardFrom received person?)) }

def declareDay (board : Board) (sender : String) (received : Instant) (fields : List (List Char))
    (finished? : Option Bool) : Board × Changes :=
  let declared := updateSender board sender received fun person =>
    setFinished finished? (fields.foldl setField person)
  match fields.flatMap alternatesIn with
  | [] => (declared, .none)
  | alternates =>
    ({ declared with alternates := declared.alternates.replace sender alternates }, ⟨false, true⟩)

/-! ### Absences -/

/-- What the fields of an absence say; of a field that is repeated the last counts. -/
structure Draft where
  person : Option (List Char)
  period : List Char
  status : Status
  statusText : Option String
  tel : Option String
deriving DecidableEq

namespace Draft

def blank : Draft := ⟨none, [], .contact, none, none⟩

def setField (draft : Draft) (line : List Char) : Draft :=
  match readField? Label.ofAbsence line with
  | some (.person, value) => { draft with person := some (fieldValue value) }
  | some (.period, value) => { draft with period := fieldValue value }
  | some (.reason, value) =>
    { draft with status := classify value, statusText := some (bracketString value) }
  | some (.absenceTel, value) => { draft with tel := some (bracketString value) }
  | _ => draft

/-- The notice that a sender files. One about nobody has an empty subject. -/
def toNotice (draft : Draft) (domain sender : String) (received : Instant) : Notice where
  reportedAt := received
  reporter := Address.localPart sender
  subject := (draft.person.bind fun name => Address.complete? domain (String.ofList name)).getD ""
  period := String.ofList draft.period
  status := draft.status
  statusText := draft.statusText
  tel := draft.tel

end Draft

def fileNotice (board : Board) (sender : String) (received : Instant) (fields : List (List Char)) :
    Board × Changes :=
  let notice := (fields.foldl Draft.setField .blank).toNotice board.domain sender received
  let (notices, filed) := board.notices.register notice
  ({ board with notices }, ⟨filed, false⟩)

/-- The value of the first field that names a person. -/
def personIn? : (fields : List (List Char)) → Option (List Char)
  | [] => none
  | line :: fields =>
    match readField? [.person] line with
    | some (_, value) => some (fieldValue value)
    | none => personIn? fields

def withdrawNotices (board : Board) (sender : String) (fields : List (List Char)) :
    Board × Changes :=
  match (personIn? fields).bind fun name => board.complete? (String.ofList name) with
  | none => (board, .none)
  | some subject =>
    let (notices, withdrawn) := board.notices.reset (Address.localPart sender) subject
    ({ board with notices }, ⟨withdrawn, false⟩)

/-! ### All requests -/

def applyRequest (board : Board) (sender : String) (received : Instant) (request : Request) :
    Board × Changes :=
  let heard := updateSender board sender received id
  match request.command with
  | .start => declareDay board sender received request.fields (some false)
  | .finish => declareDay board sender received request.fields (some true)
  | .fix => declareDay board sender received request.fields none
  | .clear => (updateSender board sender received (setFinished (some false)), .none)
  | .reportAbsence => fileNotice heard sender received request.fields
  | .withdrawAbsence => withdrawNotices heard sender request.fields
  | .nothing => (heard, .none)

end Whereabouts.Mail
