import Whereabouts.Mail.Charset
import Whereabouts.Mail.Field
/-!
# Requests

A mail asks for something by a line that begins with a marker, directly followed by a line that
begins with a field of that command. The first such place counts, and the fields are all lines from
there on. If there is none, the last marker counts, without fields. A clear needs no fields, but it
counts only on the very first line, and there it counts before everything else.
-/
namespace Whereabouts.Mail

open Whereabouts.Text

/-! ### Commands -/

inductive Command where
  /-- The day begins. -/
  | start
  /-- The day is over. -/
  | finish
  /-- Fields change and nothing else. -/
  | fix
  /-- A finished day is open again. -/
  | clear
  /-- Report an absence. -/
  | reportAbsence
  /-- Withdraw what one reported about somebody. -/
  | withdrawAbsence
  /-- The mail asks for nothing; it only shows that the sender wrote. -/
  | nothing
deriving DecidableEq, Repr

namespace Command

/-- Markers in the order in which they are tried. -/
def markers : List (String × Command) := [
  ("[開始]", start), ("[終了]", finish), ("[修正]", fix), ("[クリア]", clear),
  ("[不在連絡]", reportAbsence), ("[不在連絡取消]", withdrawAbsence)]

/-- The command whose marker begins the line, blanks aside. -/
def ofLine? (line : List Char) : Option Command :=
  (markers.find? fun marker => startsWith marker.1.toList (trimStart line)).map (·.2)

def labels : Command → List Label
  | start | finish | fix => Label.ofDay
  | reportAbsence | withdrawAbsence => Label.ofAbsence
  | clear | nothing => []

/-- Whether a line begins a field of the command. -/
def accepts (command : Command) (line : List Char) : Bool :=
  (readField? command.labels line).isSome

def isAbsence : Command → Bool
  | reportAbsence | withdrawAbsence => true
  | _ => false

end Command

/-! ### Reading a body -/

structure Request where
  command : Command
  /-- The lines from the first field to the end of the body. -/
  fields : List (List Char)
deriving DecidableEq

namespace Request

def isLineBreak (c : Char) : Bool := c == '\r' || c == '\n'

/-- The lines of a body. A run of line breaks counts as one, but a body that begins with a break
has an empty first line. -/
def bodyLines (body : List Char) : List (List Char) :=
  match splitOn isLineBreak (unify body) with
  | [] => []
  | first :: rest => first :: rest.filter fun line => !line.isEmpty

/-- Whether the next line is a field of the command. -/
def isConfirmed (command : Command) : (rest : List (List Char)) → Bool
  | [] => false
  | line :: _ => command.accepts line

/-- The first confirmed marker; `last` is the last marker passed so far. -/
def seek (last : Command) : (lines : List (List Char)) → Request
  | [] => ⟨last, []⟩
  | line :: rest =>
    match Command.ofLine? line with
    | none | some .clear => seek last rest
    | some command => if isConfirmed command rest then ⟨command, rest⟩ else seek command rest

def ofLines (lines : List (List Char)) : Request :=
  if lines.head?.bind Command.ofLine? = some .clear then ⟨.clear, []⟩ else seek .nothing lines

def ofBody (body : String) : Request := ofLines (bodyLines body.toList)

end Request

end Whereabouts.Mail
