import Whereabouts.Text.Find
/-!
# Boundaries

The parts of a letter are kept apart by marks: two hyphens and the boundary. A mark counts wherever
it stands and whatever follows it. The line break before a mark belongs to the mark, and so does the
rest of its line as far as it is blank. Any mark but the first may have a form feed directly after
it; after the last part two more hyphens follow the mark.
-/
namespace Whereabouts.Letter

open Whereabouts.Text

def markOf (boundary : List Char) : List Char := '-' :: '-' :: boundary

/-- The text before the first mark and the text after it. -/
def cutMark? (mark text : List Char) : Option (List Char × List Char) :=
  (cut? mark text).map fun parts => (parts.1, parts.2.drop mark.length)

/-- The text without the line break at its end. -/
def dropBreak (text : List Char) : List Char :=
  match text.reverse with
  | '\n' :: '\r' :: before => before.reverse
  | '\n' :: before => before.reverse
  | _ => text

/-- The text after the rest of a mark's line. -/
def afterMarkLine (text : List Char) : List Char :=
  match text.dropWhile fun c => c == ' ' || c == '\t' || c == '\r' with
  | '\n' :: rest => rest
  | rest => rest

/-- The text after the rest of the line of any mark but the first. -/
def afterLaterMarkLine (text : List Char) : List Char :=
  match text with
  | '\x0c' :: text => afterMarkLine text
  | text => afterMarkLine text

example : cutMark? (markOf ['B']) "see ---Bx".toList = some ("see -".toList, ['x']) := by decide
example : dropBreak "a\r\n\r\n".toList = "a\r\n".toList := by decide

end Whereabouts.Letter
