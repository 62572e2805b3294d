import Whereabouts.Text.Blank
import Whereabouts.Text.Find
import Whereabouts.Status
/-!
# Fields of a mail

A field is a line that begins with one of eight labels; what follows is its value. A value may be
written in square brackets with remarks around them, and then the text between the first pair
counts. A declaration is classified by the first known keyword, in the order of the list, that
occurs in it together with its brackets.
-/
namespace Whereabouts.Mail

open Whereabouts.Text

inductive Label where
  | morning
  | afternoon
  | tel
  | alternates
  | person
  | period
  | reason
  | absenceTel
deriving DecidableEq, Repr

namespace Label

def text : Label → String
  | morning => "AM"
  | afternoon => "PM"
  | tel => "TEL"
  | alternates => "ALT"
  | person => "不在者"
  | period => "不在期間"
  | reason => "不在理由"
  | absenceTel => "不在時TEL"

/-- The labels of the fields about one's own day. -/
def ofDay : List Label := [morning, afternoon, tel, alternates]

/-- The labels of the fields about an absence. -/
def ofAbsence : List Label := [person, period, reason, absenceTel]

end Label

/-- The first of the labels that begins the line, blanks aside, and the text after it. -/
def readField? : (labels : List Label) → (line : List Char) → Option (Label × List Char)
  | [], _ => none
  | label :: labels, line =>
    match afterPrefix? label.text.toList (trimStart line) with
    | some value => some (label, value)
    | none => readField? labels line

/-! ### Values -/

/-- The text between the first opening bracket and the next closing one; all of a text without
such a pair. -/
def bracketText (text : List Char) : List Char :=
  match splitAt? (· == '[') text with
  | none => text
  | some (_, afterOpen) =>
    match splitAt? (· == ']') afterOpen with
    | none => text
    | some (inside, _) => inside

def isColon (c : Char) : Bool := c == ':' || c == '：'

def isFieldBlank (c : Char) : Bool := c == ' ' || c == '\t' || c == '\u3000'

/-- The text in brackets without colons before it and blanks around it. -/
def fieldValue (text : List Char) : List Char :=
  trimWhile isFieldBlank ((bracketText text).dropWhile isColon)

/-! ### Declarations -/

def keywords : List (String × Status) := [
  ("[在宅]", .remote), ("[外出]", .remote), ("[出張]", .remote), ("[東京]", .office),
  ("[大阪]", .office), ("[非番]", .offduty), ("[休暇]", .vacation), ("[休職]", .leave)]

def classify (text : List Char) : Status :=
  match keywords.find? fun keyword => contains keyword.1.toList text with
  | some keyword => keyword.2
  | none => .contact

example : fieldValue ": [ bob ]".toList = "bob".toList := by decide
example : classify "[東京]→[外出]".toList = .remote := by decide

end Whereabouts.Mail
