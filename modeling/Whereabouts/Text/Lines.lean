/-!
# Lines

A line ends at a line feed, or at a carriage return and a line feed. The last line may lack its
end; a text that has it opens no further line.
-/
namespace Whereabouts.Text

def lines : (text : List Char) → List (List Char)
  | [] => []
  | '\n' :: text => [] :: lines text
  | '\r' :: '\n' :: text => [] :: lines text
  | c :: text =>
    match lines text with
    | [] => [[c]]
    | line :: more => (c :: line) :: more

/-- The lines with `separator` between each two. -/
def joinWith (separator : List Char) : (pieces : List (List Char)) → List Char
  | [] => []
  | [piece] => piece
  | piece :: next :: pieces => piece ++ separator ++ joinWith separator (next :: pieces)

example : lines "a\r\nb\rc\n\n".toList = ["a".toList, "b\rc".toList, []] := by decide
example : lines "a\r".toList = ["a\r".toList] := by decide

end Whereabouts.Text
