import Whereabouts.Calendar.Instant
import Whereabouts.Managers
/-!
# Vetting

Mail counts if it tells no return path, if the return path is the sender's own address, or if it
is a manager's. Mail without an address to go by is passed over in silence; mail with a foreign
return path is turned down.
-/
namespace Whereabouts.Mail

open Whereabouts.Calendar

/-- A message as far as the board needs it; the headers are as they were written. -/
structure Message where
  fromHeader : String
  returnPath : Option String
  sentAt : Instant
  body : String
deriving DecidableEq

inductive Verdict where
  | accept (sender : String)
  | ignore
  | reject (sender returnPath : String)
deriving DecidableEq

/-- The return path in the header, unless there is none or it is blank. -/
def statedPath? (message : Message) : Option (List Char) :=
  match message.returnPath with
  | none => none
  | some header =>
    match Text.trim header.toList with
    | [] => none
    | path => some path

def vet (managers : Managers) (message : Message) : Verdict :=
  match Address.find? message.fromHeader with
  | none => .ignore
  | some sender =>
    match statedPath? message with
    | none => .accept sender
    | some path =>
      match Address.find? (String.ofList path) with
      | none => .ignore
      | some returnPath =>
        if returnPath = sender ∨ managers.contains returnPath then .accept sender
        else .reject sender returnPath

end Whereabouts.Mail
