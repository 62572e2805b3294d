/-!
# Finding and replacing

Everything here looks for the first place from the left. `cut?` keeps the mark with the second
part, so putting the two parts together gives the text back.
-/
namespace Whereabouts.Text

/-! ### Prefixes -/

/-- What follows `mark` at the start of the text. -/
def afterPrefix? : (mark text : List Char) → Option (List Char)
  | [], text => some text
  | _ :: _, [] => none
  | m :: mark, c :: text => if m = c then afterPrefix? mark text else none

theorem afterPrefix?_eq_some {mark text rest : List Char} :
    afterPrefix? mark text = some rest ↔ text = mark ++ rest := by
  induction mark generalizing text with
  | nil => simp [afterPrefix?]
  | cons m mark ih =>
    cases text with
    | nil => simp [afterPrefix?]
    | cons c text =>
      by_cases same : m = c
      · simp [afterPrefix?, same, ih]
      · simp [afterPrefix?, same, Ne.symm same]

def startsWith (mark text : List Char) : Bool := (afterPrefix? mark text).isSome

/-! ### Cutting -/

/-- The text before the first `mark`, and the text from that mark on. -/
def cut? (mark : List Char) : (text : List Char) → Option (List Char × List Char)
  | [] => if startsWith mark [] then some ([], []) else none
  | c :: text =>
    if startsWith mark (c :: text) then some ([], c :: text)
    else (cut? mark text).map fun parts => (c :: parts.1, parts.2)

def contains (mark text : List Char) : Bool := (cut? mark text).isSome

theorem append_of_cut? {mark text before rest : List Char}
    (found : cut? mark text = some (before, rest)) : before ++ rest = text := by
  induction text generalizing before with
  | nil =>
    simp only [cut?] at found
    split at found <;> simp_all
  | cons c text ih =>
    simp only [cut?] at found
    split at found
    · simp_all
    · obtain ⟨⟨before', rest'⟩, inner, same⟩ := Option.map_eq_some_iff.mp found
      cases same
      exact congrArg (c :: ·) (ih inner)

/-- The text before the first character that `stops`, and the text after that character. -/
def splitAt? (stops : Char → Bool) : (text : List Char) → Option (List Char × List Char)
  | [] => none
  | c :: text =>
    if stops c then some ([], text)
    else (splitAt? stops text).map fun parts => (c :: parts.1, parts.2)

/-- The text before the last character that `stops`. -/
def beforeLast? (stops : Char → Bool) : (text : List Char) → Option (List Char)
  | [] => none
  | c :: text =>
    match beforeLast? stops text with
    | some before => some (c :: before)
    | none => if stops c then some [] else none

/-- The pieces between the characters that `stops`; there is always at least one. -/
def splitOn (stops : Char → Bool) : (text : List Char) → List (List Char)
  | [] => [[]]
  | c :: text =>
    if stops c then [] :: splitOn stops text
    else
      match splitOn stops text with
      | [] => [[c]]
      | piece :: pieces => (c :: piece) :: pieces

/-! ### Replacing -/

/-- `passed` counts the characters of a mark found before that are still to be passed over. -/
def replaceFrom (mark new : List Char) : (passed : Nat) → (text : List Char) → List Char
  | _, [] => []
  | passed + 1, _ :: text => replaceFrom mark new passed text
  | 0, c :: text =>
    if startsWith mark (c :: text) then new ++ replaceFrom mark new (mark.length - 1) text
    else c :: replaceFrom mark new 0 text

/-- Every `mark` is replaced, from the left and without overlaps. The mark is not empty. -/
def replaceAll (mark new text : List Char) : List Char := replaceFrom mark new 0 text

example : replaceAll "aa".toList "b".toList "aaaxa".toList = "baxa".toList := by decide
example : cut? "bc".toList "abcbc".toList = some ("a".toList, "bcbc".toList) := by decide

end Whereabouts.Text
