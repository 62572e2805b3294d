import Whereabouts.Text.Find
/-!
# Escaping

Text that goes onto a page must not read as markup. The five markup characters become entities, and
a space becomes a space that does not break. A text may bring entities for spaces of its own; those
four are kept as they are.
-/
namespace Whereabouts.Page

open Whereabouts.Text

def entityOf (c : Char) : List Char :=
  match c with
  | '&' => "&amp;".toList
  | '<' => "&lt;".toList
  | '>' => "&gt;".toList
  | '"' => "&quot;".toList
  | '\'' => "&#39;".toList
  | ' ' => "&nbsp;".toList
  | _ => [c]

/-- The entities for spaces that a text may bring. -/
def spaceEntities : List String := ["nbsp", "ensp", "emsp", "thinsp"]

/-- Gives back an entity whose ampersand was escaped. -/
def restore (text : List Char) (entity : String) : List Char :=
  replaceAll ("&amp;" ++ entity ++ ";").toList ("&" ++ entity ++ ";").toList text

def escape (text : List Char) : List Char := spaceEntities.foldl restore (text.flatMap entityOf)

example : escape "a&nbsp;<b> &copy;".toList = "a&nbsp;&lt;b&gt;&nbsp;&amp;copy;".toList := by decide

end Whereabouts.Page
