/-!
# Ranges of code points

A class of characters is a list of closed ranges of code points, in increasing order.
-/
namespace Whereabouts.Text

/-- The ranges are read up to the first that starts beyond the code point. -/
def inRanges (code : Nat) : (ranges : List (Nat × Nat)) → Bool
  | [] => false
  | (first, last) :: ranges => first ≤ code && (code ≤ last || inRanges code ranges)

end Whereabouts.Text
