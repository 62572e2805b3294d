import Whereabouts.Text.Find
/-!
# Placeholders

A template shows where a contact number goes by a text in square brackets that begins with the word
for an extension. The number takes the place of the text between the brackets; a second value can
follow in brackets of its own.
-/
namespace Whereabouts.Page

open Whereabouts.Text

def opening : List Char := "[内線".toList

structure Placeholder where
  before : List Char
  inside : List Char
  after : List Char
deriving DecidableEq

/-- The first opening and the first closing bracket after it. -/
def Placeholder.find? (source : List Char) : Option Placeholder := do
  let (before, fromOpening) ← cut? opening source
  let (inside, after) ← splitAt? (· == ']') (fromOpening.drop 1)
  some ⟨before, inside, after⟩

/-- The source with the value in the placeholder, if there are both. -/
def embed (source : List Char) (value? : Option (List Char)) : List Char :=
  match value?, Placeholder.find? source with
  | some value, some found => found.before ++ '[' :: value ++ ']' :: found.after
  | _, _ => source

/-- The source with two values side by side. Without a first value the placeholder keeps its own. -/
def embedPair (source : List Char) (first? : Option (List Char)) (second : List Char) : List Char :=
  match Placeholder.find? source with
  | none => source
  | some found =>
    found.before ++ '[' :: first?.getD found.inside ++ "][".toList ++ second ++ ']' :: found.after

example : embed "x[内線 1]y".toList (some "5".toList) = "x[5]y".toList := by decide
example : embedPair "x[内線 1]y".toList none "n".toList = "x[内線 1][n]y".toList := by decide

end Whereabouts.Page
