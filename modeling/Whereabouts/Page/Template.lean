import Whereabouts.Text.Lines
import Whereabouts.Address
/-!
# Templates

A template is a page in which each person has two lines: a name line, and after it a slot line that
names the person by an account in square brackets or by an address. A slot line pairs with the line
before it if that line is free and has a name between its first `>` and its last `<`. Reading keeps
one line back, so that a slot line can reach it; every line that does not pair is kept as it is.
-/
namespace Whereabouts.Page

open Whereabouts.Text

/-- Whose slot it is, as the template says. -/
inductive Holder where
  | account (name : List Char)
  | address (address : List Char)
deriving DecidableEq

structure Slot where
  holder : Holder
  /-- The name line between its first `>` and its last `<`. -/
  name : List Char
  /-- The slot line from its first `[` on. -/
  rest : List Char
  /-- Whether the cell spans two columns. -/
  wide : Bool
deriving DecidableEq

inductive Piece where
  | line (text : List Char)
  /-- The line that opens the body; the header goes below it. -/
  | bodyLine (text : List Char)
  | slot (slot : Slot)
deriving DecidableEq

/-- An account goes before an address. -/
def holder? (line : List Char) : Option Holder :=
  match Address.scanAccount? line with
  | some name => some (.account name)
  | none => (Address.scan? line).map .address

/-- The address under which the board knows the holder. -/
def Holder.onBoard (domain : String) : Holder → String
  | account name => (Address.complete? domain (String.ofList name)).getD ""
  | address found => String.ofList found

/-- The text between the first `>` and the last `<`. -/
def nameIn? (line : List Char) : Option (List Char) := do
  let (_, afterTag) ← splitAt? (· == '>') line
  beforeLast? (· == '<') afterTag

def Slot.pair? (nameLine line : List Char) (holder : Holder) : Option Slot := do
  let name ← nameIn? nameLine
  let (_, rest) ← cut? ['['] line
  some ⟨holder, name, rest, contains "colspan".toList line⟩

def opensBody (line : List Char) : Bool := contains "<body>".toList line

/-- The line kept back, as a piece of its own. -/
def flush (kept : Option (List Char)) : List Piece :=
  match kept with
  | none => []
  | some line => [.line line]

def piecesFrom (kept : Option (List Char)) : (lines : List (List Char)) → List Piece
  | [] => flush kept
  | line :: lines =>
    match holder? line with
    | some holder =>
      match kept.bind fun nameLine => Slot.pair? nameLine line holder with
      | some slot => .slot slot :: piecesFrom none lines
      | none => flush kept ++ piecesFrom (some line) lines
    | none =>
      if opensBody line then flush kept ++ .bodyLine line :: piecesFrom none lines
      else flush kept ++ piecesFrom (some line) lines

def pieces (template : List Char) : List Piece := piecesFrom none (lines template)

end Whereabouts.Page
