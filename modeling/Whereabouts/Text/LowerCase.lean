import Whereabouts.Text.Ranges
import Whereabouts.Text.CaseTables
/-!
# Lower case

Letters go to their lower-case letters by the Unicode character database. Two are special: a
dotted capital I becomes an i and a combining dot, and a capital sigma becomes the final form at
the end of a word. A word ends at a sigma when the nearest character before it that counts for
casing is a letter with case and the nearest one after it is not.
-/
namespace Whereabouts.Text

def isCased (c : Char) : Bool := inRanges c.toNat casedRanges

def isCaseIgnorable (c : Char) : Bool := inRanges c.toNat caseIgnorableRanges

/-- The lower-case letters of one character, wherever it stands. -/
def lowerOf (c : Char) : List Char :=
  if c.toNat < 128 then [c.toLower]
  else if c = 'İ' then ['i', '\u0307']
  else
    match caseRuns.find? fun run => run.holds c.toNat with
    | some run => [Char.ofNat (c.toNat + run.distance).toNat]
    | none => [c]

/-- Whether the nearest character that counts for casing has case. -/
def meetsCased (text : List Char) : Bool :=
  match text.dropWhile isCaseIgnorable with
  | [] => false
  | c :: _ => isCased c

/-- The lower-case form of a capital sigma between the text before it, nearest character first,
and the text after it. -/
def sigma (before after : List Char) : Char :=
  if meetsCased before && !meetsCased after then 'ς' else 'σ'

def lowerFrom (before : List Char) : (text : List Char) → List Char
  | [] => []
  | c :: text =>
    (if c = 'Σ' then [sigma before text] else lowerOf c) ++ lowerFrom (c :: before) text

def lower (text : List Char) : List Char := lowerFrom [] text

/-- Below 128 only the capital Latin letters change. -/
theorem lowerOf_ascii {c : Char} (ascii : c.toNat < 128) : lowerOf c = [c.toLower] := by
  simp [lowerOf, ascii]

example : lower "Bob É".toList = "bob é".toList := by decide
example : lower "ΑΣ ΑΣΑ".toList = "ας ασα".toList := by decide

end Whereabouts.Text
