import Whereabouts.Proofs.Address
import Whereabouts.Proofs.Mail.Frame
/-!
# Whose mail counts

## Main result

`unauthorised_mail_is_void`: a message is applied just if it shows a sender and tells no return path but
the sender's own or a manager's, and then in the name of the primary address of that sender. It is
rejected just if it shows both addresses and neither holds, and ignored otherwise. In any run, the
messages that are not applied might as well not have been sent.

## Strategy

1. `CountsFor` and `TurnedDown` judge the headers as they were written, without the search for an
   address and without trimming.
2. Vetting gives just these judgments, and interpreting follows the verdict.
3. A message that is not applied leaves the board alone, so the ones after it meet the same board.
-/
namespace Whereabouts.Mail

open Whereabouts.Text

/-! ### Judging the headers -/

/-- There is no return path, or it is blank. -/
def TellsNoPath (message : Message) : Prop :=
  ∀ header ∈ message.returnPath, ∀ c ∈ header.toList, isBlank c = true

def ReturnsTo (message : Message) (address : String) : Prop :=
  ∃ header ∈ message.returnPath, Address.Shows header address

/-- Mail of the sender may have this return path. -/
def Trusted (managers : Managers) (sender returnPath : String) : Prop :=
  returnPath = sender ∨ returnPath ∈ managers.addresses

structure CountsFor (managers : Managers) (message : Message) (sender : String) : Prop where
  written : Address.Shows message.fromHeader sender
  path : TellsNoPath message ∨
    ∃ returnPath, ReturnsTo message returnPath ∧ Trusted managers sender returnPath

structure TurnedDown (managers : Managers) (message : Message) (sender returnPath : String) :
    Prop where
  written : Address.Shows message.fromHeader sender
  returns : ReturnsTo message returnPath
  foreign : ¬ Trusted managers sender returnPath

/-! ### Vetting -/

section Vetting

variable {managers : Managers} {message : Message} {sender returnPath : String}

private theorem statedPath?_eq_none : statedPath? message = none ↔ TellsNoPath message := by
  rw [statedPath?, TellsNoPath]
  cases message.returnPath with
  | none => exact iff_of_true rfl nofun
  | some header =>
    dsimp only
    split
    next blank =>
      refine iff_of_true rfl ?_
      rintro _ ⟨⟩
      exact trim_eq_nil.mp blank
    next stated =>
      refine iff_of_false nofun fun blank => ?_
      exact stated (trim_eq_nil.mpr (blank header rfl))

private theorem statedPath?_eq_some {path : List Char} :
    statedPath? message = some path ↔
      ∃ header ∈ message.returnPath, path = trim header.toList ∧ path ≠ [] := by
  rw [statedPath?]
  cases message.returnPath with
  | none => simp
  | some header =>
    dsimp only
    split
    next blank => simp [blank]
    next stated =>
      constructor
      · rintro ⟨⟩
        exact ⟨header, rfl, rfl, stated⟩
      · rintro ⟨_, ⟨⟩, rfl, _⟩
        rfl

/-- The address is looked for in the trimmed header, which makes no difference. -/
private theorem returnsTo_iff :
    ReturnsTo message returnPath ↔
      ∃ path, statedPath? message = some path ∧
        Address.find? (String.ofList path) = some returnPath := by
  simp only [ReturnsTo, statedPath?_eq_some, ← Address.find?_eq_some]
  constructor
  · rintro ⟨header, there, shown⟩
    rw [← Address.find?_trim] at shown
    refine ⟨_, ⟨header, there, rfl, ?_⟩, shown⟩
    intro blank
    rw [blank] at shown
    cases shown
  · rintro ⟨_, ⟨header, there, rfl, _⟩, shown⟩
    rw [Address.find?_trim] at shown
    exact ⟨header, there, shown⟩

private theorem trusted_iff :
    Trusted managers sender returnPath ↔
      returnPath = sender ∨ managers.contains returnPath = true := by
  rw [Trusted, Managers.contains, List.contains_iff_mem]

theorem vet_of_countsFor (counts : CountsFor managers message sender) :
    vet managers message = .accept sender := by
  rw [vet, Address.find?_eq_some.mpr counts.written]
  rcases counts.path with nothing | ⟨returnPath, returns, trusted⟩
  · rw [statedPath?_eq_none.mpr nothing]
  · obtain ⟨path, stated, shown⟩ := returnsTo_iff.mp returns
    rw [stated]
    dsimp only
    rw [shown]
    exact if_pos (trusted_iff.mp trusted)

private theorem vet_of_turnedDown (down : TurnedDown managers message sender returnPath) :
    vet managers message = .reject sender returnPath := by
  obtain ⟨path, stated, shown⟩ := returnsTo_iff.mp down.returns
  rw [vet, Address.find?_eq_some.mpr down.written, stated]
  dsimp only
  rw [shown]
  exact if_neg (mt trusted_iff.mpr down.foreign)

/-- A verdict on a sender is given for no other reason. -/
private theorem judged_vet (managers : Managers) (message : Message) :
    match vet managers message with
    | .accept sender => CountsFor managers message sender
    | .reject sender returnPath => TurnedDown managers message sender returnPath
    | .ignore => True := by
  rw [vet]
  cases written : Address.find? message.fromHeader with
  | none => trivial
  | some sender =>
    have written := Address.find?_eq_some.mp written
    cases stated : statedPath? message with
    | none => exact ⟨written, .inl (statedPath?_eq_none.mp stated)⟩
    | some path =>
      dsimp only
      cases shown : Address.find? (String.ofList path) with
      | none => trivial
      | some returnPath =>
        have returns := returnsTo_iff.mpr ⟨path, stated, shown⟩
        dsimp only
        split
        next sender' same =>
          split at same
          next trusted =>
            cases same
            exact ⟨written, .inr ⟨returnPath, returns, trusted_iff.mpr trusted⟩⟩
          · cases same
        next sender' returnPath' same =>
          split at same
          · cases same
          next foreign =>
            cases same
            exact ⟨written, returns, mt trusted_iff.mp foreign⟩
        · trivial

theorem vet_eq_accept : vet managers message = .accept sender ↔ CountsFor managers message sender := by
  refine ⟨fun accepted => ?_, vet_of_countsFor⟩
  have judged := judged_vet managers message
  rw [accepted] at judged
  exact judged

private theorem vet_eq_reject :
    vet managers message = .reject sender returnPath ↔
      TurnedDown managers message sender returnPath := by
  refine ⟨fun rejected => ?_, vet_of_turnedDown⟩
  have judged := judged_vet managers message
  rw [rejected] at judged
  exact judged

end Vetting

/-! ### One message -/

section Step

variable (board : Board) (message : Message)

private theorem applied_iff :
    (∃ sender command changes, (interpret board message).2 = .applied sender command changes) ↔
      ∃ sender, CountsFor board.managers message sender := by
  simp only [← vet_eq_accept, interpret]
  cases vet board.managers message with
  | accept sender => simp
  | ignore => simp
  | reject sender returnPath => simp

theorem rejected_iff (sender returnPath : String) :
    (interpret board message).2 = .rejected sender returnPath ↔
      TurnedDown board.managers message sender returnPath := by
  simp only [← vet_eq_reject, interpret]
  cases vet board.managers message with
  | accept sender' => simp
  | ignore => simp
  | reject sender' returnPath' => simp

private theorem ignored_iff :
    (interpret board message).2 = .ignored ↔
      (∀ sender, ¬ CountsFor board.managers message sender) ∧
        ∀ sender returnPath, ¬ TurnedDown board.managers message sender returnPath := by
  simp only [← vet_eq_reject, ← vet_eq_accept, interpret]
  cases vet board.managers message with
  | accept sender => simp
  | ignore => simp
  | reject sender returnPath => simp

/-- A message that counts is carried out for the primary address of the sender that it shows. -/
private theorem interpret_of_countsFor {address : String}
    (counts : CountsFor board.managers message address) :
    let sender := board.alternates.resolve address
    let request := Request.ofBody message.body
    let (after, changes) := applyRequest board sender message.sentAt request
    interpret board message = (after, .applied sender request.command changes) := by
  simp only [interpret, vet_of_countsFor counts]

/-- A message that is nobody's leaves the board as it was. -/
theorem interpret_of_nobody (nobody : (interpret board message).2.sender? = none) :
    (interpret board message).1 = board := by
  have interpreted := interpreted_interpret board message
  generalize (interpret board message).1 = after, (interpret board message).2 = outcome
    at interpreted nobody
  cases interpreted with
  | ignored => rfl
  | rejected => rfl
  | applied => cases nobody

end Step

/-! ### A run -/

/-- The messages of a run that are applied, with their outcomes. -/
def appliedOf (board : Board) (messages : List Message) : List (Message × Outcome) :=
  (messages.zip (interpretAll board messages).2).filter fun entry => entry.2.sender?.isSome

private theorem appliedOf_cons (board : Board) (message : Message) (messages : List Message) :
    appliedOf board (message :: messages) =
      if (interpret board message).2.sender?.isSome then
        (message, (interpret board message).2) :: appliedOf (interpret board message).1 messages
      else appliedOf (interpret board message).1 messages := by
  rw [appliedOf, interpretAll, List.zip_cons_cons, List.filter_cons]
  rfl

private theorem interpretAll_appliedOf (board : Board) (messages : List Message) :
    interpretAll board ((appliedOf board messages).map (·.1)) =
      ((interpretAll board messages).1, (appliedOf board messages).map (·.2)) := by
  -- The board goes along, since an applied message changes it for the later ones.
  induction messages generalizing board with
  | nil => rfl
  | cons message messages ih =>
    rw [appliedOf_cons, interpretAll]
    split
    next counted =>
      rw [List.map_cons, List.map_cons, interpretAll]
      dsimp only
      rw [ih]
    next uncounted =>
      rw [interpret_of_nobody board message (by simpa using uncounted), ih]
      dsimp only
      rw [interpret_of_nobody board message (by simpa using uncounted)]

/-- A message is applied just if it counts for some sender, rejected just if it is turned down, and
ignored otherwise. If it counts, the board and the outcome are those of its request, made by the
primary address of that sender when the message was sent. The messages of a run that are applied do
the same, one by one and in the end, if they are all that is sent. -/
theorem unauthorised_mail_is_void (board : Board) :
    (∀ message,
      ((∃ sender command changes, (interpret board message).2 = .applied sender command changes) ↔
        ∃ sender, CountsFor board.managers message sender) ∧
      (∀ address, CountsFor board.managers message address →
        let sender := board.alternates.resolve address
        let request := Request.ofBody message.body
        let (after, changes) := applyRequest board sender message.sentAt request
        interpret board message = (after, .applied sender request.command changes)) ∧
      (∀ sender returnPath, (interpret board message).2 = .rejected sender returnPath ↔
        TurnedDown board.managers message sender returnPath) ∧
      ((interpret board message).2 = .ignored ↔
        (∀ sender, ¬ CountsFor board.managers message sender) ∧
          ∀ sender returnPath, ¬ TurnedDown board.managers message sender returnPath)) ∧
    ∀ messages,
      interpretAll board ((appliedOf board messages).map (·.1)) =
        ((interpretAll board messages).1, (appliedOf board messages).map (·.2)) := by
  constructor
  · intro message
    exact ⟨applied_iff board message, fun _ counts => interpret_of_countsFor board message counts,
      rejected_iff board message, ignored_iff board message⟩
  · exact interpretAll_appliedOf board

end Whereabouts.Mail
