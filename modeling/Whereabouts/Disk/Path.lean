import Whereabouts.Text.Find
/-!
# Paths

A path is a text of names with slashes between them. A plain path names nothing twice: it has no
empty name, no single point and no two points among its names. Paths and names have a greatest
length.
-/
namespace Whereabouts.Path

open Whereabouts.Text

/-- The path of a name in a directory; an empty directory is the present one. -/
def join (directory name : String) : String :=
  if directory = "" then name
  else if directory.toList.getLast? = some '/' then directory ++ name
  else directory ++ "/" ++ name

/-- The directory of a path; empty for a bare name. -/
def parent (path : String) : String :=
  match beforeLast? (· == '/') path.toList with
  | some directory => String.ofList directory
  | none => ""

/-- The path and the directories around it, outermost first. -/
def prefixes (path : String) : List String :=
  let step (before : List String) (piece : List Char) : List String :=
    match before.getLast? with
    | none => [String.ofList piece]
    | some outer => before ++ [outer ++ "/" ++ String.ofList piece]
  (splitOn (· == '/') path.toList).foldl step []

/-- One piece further: a name leads into a directory, two points lead back to the one around it, and
nothing or one point leaves the place. -/
def onward (place : String) (piece : List Char) : String :=
  if piece = [] ∨ piece = ['.'] then place
  else if piece = ['.', '.'] then parent place
  else join place (String.ofList piece)

/-- The places along a path that begins at `place`. -/
def placesFrom (place : String) : (pieces : List (List Char)) → List String
  | [] => []
  | piece :: pieces => onward place piece :: placesFrom (onward place piece) pieces

/-- The places that a path leads to one after the other, as plain paths; the root is empty. -/
def places (path : String) : List String := placesFrom "" (splitOn (· == '/') path.toList)

/-- How many octets a path has at most. -/
def longestPath : Nat := 4095

/-- How many octets a name has at most. -/
def longestName : Nat := 255

def lastName (path : String) : String :=
  String.ofList ((splitOn (· == '/') path.toList).getLast?.getD [])

/-- Whether no directory can have an entry of the last name of the path. -/
def hasLongName (path : String) : Bool := longestName < (lastName path).utf8ByteSize

/-- Whether the name ends in a point and the extension and has something before them. -/
def hasExtension (extension name : String) : Bool :=
  match beforeLast? (· == '.') name.toList with
  | none | some [] => false
  | some stem => name.toList.drop (stem.length + 1) == extension.toList

example : places "state/./../x/" = ["state", "state", "", "x", "x"] := by decide
example : hasExtension "eml" ".eml" = false := by decide

end Whereabouts.Path
