import Whereabouts.Mail.Vetting
import Whereabouts.Mail.Effect
/-!
# Interpretation

A message is vetted, attributed to the primary address of its sender, read as a request and
applied. A message that is not accepted changes nothing.
-/
namespace Whereabouts.Mail

inductive Outcome where
  /-- The sender is the primary address the message was attributed to. -/
  | applied (sender : String) (command : Command) (changes : Changes)
  | ignored
  | rejected (sender returnPath : String)
deriving DecidableEq

def interpret (board : Board) (message : Message) : Board × Outcome :=
  match vet board.managers message with
  | .ignore => (board, .ignored)
  | .reject sender returnPath => (board, .rejected sender returnPath)
  | .accept address =>
    let sender := board.alternates.resolve address
    let request := Request.ofBody message.body
    let (after, changes) := applyRequest board sender message.sentAt request
    (after, .applied sender request.command changes)

/-- The messages in turn, with the outcome of each. -/
def interpretAll (board : Board) : (messages : List Message) → Board × List Outcome
  | [] => (board, [])
  | message :: messages =>
    let (after, outcome) := interpret board message
    let (final, outcomes) := interpretAll after messages
    (final, outcome :: outcomes)

/-- The last message meets the board that the others left. -/
theorem interpretAll_concat (board : Board) (messages : List Message) (message : Message) :
    interpretAll board (messages ++ [message]) =
      let (before, outcomes) := interpretAll board messages
      let (after, outcome) := interpret before message
      (after, outcomes ++ [outcome]) := by
  induction messages generalizing board with
  | nil => rfl
  | cons first messages ih => simp only [List.cons_append, interpretAll, ih]

theorem length_interpretAll (board : Board) (messages : List Message) :
    (interpretAll board messages).2.length = messages.length := by
  induction messages generalizing board with
  | nil => rfl
  | cons message messages ih => simp only [interpretAll, List.length_cons, ih]

end Whereabouts.Mail
